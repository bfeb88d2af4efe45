import AdmissionControl.Pipeline

namespace AdmissionControl

inductive Sleeper where
  | bucket (limiter : Ref Limiter)
  | request (request : Ref Request)
  deriving DecidableEq

/-- A moment, in milliseconds, and who waits for it. -/
structure Alarm where
  moment : Nat
  sleeper : Sleeper
  deriving DecidableEq

/-- The state of the world. `now` is the time that passes by itself, in milliseconds; the clocks
are set by hand. Clock 0 is the one that a component reads if it is given no other. The alarms are
in the order in which they were set. -/
structure World where
  now : Nat := 0
  hasRuntime : Bool := true
  clocks : Table Clock := {}
  tokens : Table Token := {}
  stores : Table Store := {}
  limiters : Table Limiter := {}
  circuits : Table Circuit := {}
  requests : Table Request := {}
  alarms : List Alarm := []
  interruptions : List Interruption := []
  sightings : List Sighting := []
  metrics : Metrics := {}
  journal : Array Event := #[]

namespace World

instance : Inhabited World := ⟨{}⟩

def record (world : World) (events : List Event) : World :=
  { world with journal := world.journal ++ events }

def notify (world : World) (notices : List Notice) : World :=
  let world := world.record (notices.filterMap Notice.event?)
  { world with
    metrics := (notices.filterMap Notice.breakerEvent?).foldl Metrics.recordBreaker world.metrics }

def takeJournal (world : World) : List Event × World :=
  (world.journal.toList, { world with journal := #[] })

def setLimiter (world : World) (ref : Ref Limiter) (limiter : Limiter) : World :=
  { world with limiters := world.limiters.set ref limiter }

def setStore (world : World) (ref : Ref Store) (store : Store) : World :=
  { world with stores := world.stores.set ref store }

def setBreaker (world : World) (ref : Ref Circuit) (breaker : Breaker) : World :=
  { world with circuits := world.circuits.modify ref ({ · with breaker }) }

def setRequest (world : World) (ref : Ref Request) (request : Request) : World :=
  { world with requests := world.requests.set ref request }

def setAlarm (world : World) (sleeper : Sleeper) : Option Nat → World
  | some moment => { world with alarms := world.alarms ++ [⟨moment, sleeper⟩] }
  | none => world

theorem setAlarm_blind {α : Type u} (see : World → α)
    (blind : ∀ (world : World) (alarms : List Alarm), see { world with alarms } = see world)
    (world : World) (sleeper : Sleeper) (moment? : Option Nat) :
    see (world.setAlarm sleeper moment?) = see world := by
  cases moment? with
  | none => rfl
  | some moment => exact blind world _

theorem mem_setAlarm {world : World} {sleeper : Sleeper} {moment? : Option Nat} {alarm : Alarm} :
    alarm ∈ (world.setAlarm sleeper moment?).alarms ↔
      alarm ∈ world.alarms ∨ moment? = some alarm.moment ∧ alarm.sleeper = sleeper := by
  cases moment? with
  | none => simp [setAlarm]
  | some moment =>
    obtain ⟨due, mine⟩ := alarm
    simp [setAlarm, eq_comm]

def breaker (world : World) (ref : Ref Circuit) : Breaker := (world.circuits.get ref).breaker

def addToken (world : World) (parent : Option (Ref Token)) : Ref Token × World :=
  let (ref, tokens) := world.tokens.add { parent }
  (ref, { world with tokens })

def cancel (world : World) (ref : Ref Token) : World :=
  { world with tokens := world.tokens.modify ref ({ · with cancelled := true }) }

def addClock (world : World) (now : Nat) : Ref Clock × World :=
  let (ref, clocks) := world.clocks.add ⟨now⟩
  (ref, { world with clocks })

def setClock (world : World) (ref : Ref Clock) (now : Nat) : World :=
  { world with clocks := world.clocks.set ref ⟨now⟩ }

def advanceClock (world : World) (ref : Ref Clock) (millis : Nat) : World :=
  { world with clocks := world.clocks.modify ref (·.advance millis) }

def addStore (world : World) (store : Store) : Ref Store × World :=
  let (ref, stores) := world.stores.add store
  (ref, { world with stores })

def addCircuit (world : World) (circuit : Circuit) : Ref Circuit × World :=
  let (ref, circuits) := world.circuits.add circuit
  (ref, { world with circuits })

def addLimiter (world : World) (limiter : Limiter) : Ref Limiter × World :=
  let (ref, limiters) := world.limiters.add limiter
  (ref, { world with limiters })

end World

end AdmissionControl
