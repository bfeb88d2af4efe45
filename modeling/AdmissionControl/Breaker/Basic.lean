import AdmissionControl.Metrics
import AdmissionControl.Settings

namespace AdmissionControl

inductive CircuitState where
  | closed
  | opened
  | halfOpen
  deriving DecidableEq, Repr, Inhabited

namespace CircuitState

def all : List CircuitState := [closed, opened, halfOpen]

def name : CircuitState → String
  | closed => "closed"
  | opened => "open"
  | halfOpen => "half-open"

def label : CircuitState → String
  | closed => "Closed"
  | opened => "Open"
  | halfOpen => "HalfOpen"

end CircuitState

/-- When a breaker opens, for how long, and how many trials it lets through at a time. -/
structure BreakerSettings where
  failureThreshold : Nat
  recoveryTimeout : Duration
  halfOpenMaxCalls : Nat
  deriving DecidableEq, Repr

namespace BreakerSettings

def default : BreakerSettings where
  failureThreshold := Defaults.failureThreshold
  recoveryTimeout := Defaults.recoveryTimeout
  halfOpenMaxCalls := Defaults.halfOpenMaxCalls

instance : Inhabited BreakerSettings := ⟨default⟩

/-- Settings with defaults for what is not positive, and the reports of the replacements. -/
def normalized (failureThreshold : Nat) (recoveryTimeout : Duration) (halfOpenMaxCalls : Nat) :
    BreakerSettings × List Event :=
  let (failures, failuresReport) :=
    normalizeCount .breaker .failureThreshold failureThreshold Defaults.failureThreshold
  let (recovery, recoveryReport) :=
    normalizeDuration .breaker .recoveryTimeout recoveryTimeout Defaults.recoveryTimeout
  let (trials, trialsReport) :=
    normalizeCount .breaker .halfOpenMaxCalls halfOpenMaxCalls Defaults.halfOpenMaxCalls
  (⟨failures, recovery, trials⟩, failuresReport ++ recoveryReport ++ trialsReport)

/-- Settings under which a breaker never opens. -/
def disabled : BreakerSettings := ⟨unlimited, .longest, unlimited⟩

/-- The settings with another limit of trials, which has to be positive. -/
def withHalfOpenLimit (settings : BreakerSettings) (limit : Nat) :
    Except ConfigError BreakerSettings :=
  if limit = 0 then .error (.invalidHalfOpenLimit limit)
  else .ok { settings with halfOpenMaxCalls := limit }

/-- For how many milliseconds of its clock an open breaker refuses everybody. -/
def recoveryMillis (settings : BreakerSettings) : Nat := max settings.recoveryTimeout.wholeMillis 1

def text (settings : BreakerSettings) : String :=
  "CircuitBreakerConfig \x7b failure_threshold: " ++ toString settings.failureThreshold ++
    ", recovery_timeout: " ++ settings.recoveryTimeout.text ++
    ", half_open_max_calls: " ++ toString settings.halfOpenMaxCalls ++ " \x7d"

end BreakerSettings

/-- The half-open periods of a breaker, counted in the 62 bits that its word has for them. -/
abbrev Round := Fin 0x4000000000000000

/-- The round that follows. The last is followed by the first. -/
def Round.next (round : Round) : Round :=
  ⟨(round.val + 1) % 0x4000000000000000, Nat.mod_lt _ (by decide)⟩

/-- State and round change together, in one word of 64 bits, so that whoever compares the word
compares both. -/
structure Word where
  state : CircuitState
  round : Round
  deriving DecidableEq, Repr, Inhabited

/-- Permission to make one call. A trial belongs to the round that let it through. -/
inductive Permit where
  | ordinary
  | trial (round : Round)
  deriving DecidableEq, Repr, Inhabited

namespace Permit

def isTrial : Permit → Bool
  | ordinary => false
  | trial _ => true

def text (permit : Permit) : String :=
  "CallPermit \x7b trial: " ++ toString permit.isTrial ++ " \x7d"

end Permit

/-- What the timestamp cell holds outside an open period: as if opened just now, so that a caller
who sees the breaker open before its timestamp is there is still refused. -/
def notOpen : Nat := lastMilli

/-- A breaker: its settings and the cells that all its users share. -/
structure Breaker where
  settings : BreakerSettings
  word : Word := ⟨.closed, 0⟩
  failures : Nat := 0
  openedAt : Nat := notOpen
  trials : Nat := 0
  deriving DecidableEq, Repr, Inhabited

namespace Breaker

def new (settings : BreakerSettings) : Breaker := { settings }

def state (breaker : Breaker) : CircuitState := breaker.word.state

def text (breaker : Breaker) : String :=
  "CircuitBreakerPolicy \x7b state: " ++ breaker.state.label ++
    ", failure_count: " ++ toString breaker.failures ++
    ", config: " ++ breaker.settings.text ++ ", .. \x7d"

end Breaker

/-- What a breaker tells the metrics and the log. -/
inductive Notice where
  | tripped (failures threshold : Nat)
  | trialFailed (failures : Nat)
  | halfOpened
  | trialStarted (inFlight limit : Nat)
  | closed
  | rejected
  deriving DecidableEq, Repr

namespace Notice

/-- What the metrics count of it. -/
def breakerEvent? : Notice → Option BreakerEvent
  | tripped .. | trialFailed _ => some .opened
  | halfOpened => some .halfOpened
  | trialStarted .. => none
  | closed => some .closed
  | rejected => some .rejected

/-- What the log says of it. -/
def event? : Notice → Option Event
  | tripped failures threshold => some (.circuitOpened failures threshold)
  | trialFailed failures => some (.trialFailed failures)
  | halfOpened => some .circuitHalfOpened
  | trialStarted inFlight limit => some (.trialStarted inFlight limit)
  | closed => some .circuitClosed
  | rejected => none

end Notice

end AdmissionControl
