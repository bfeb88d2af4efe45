import AdmissionControl.Settings
import AdmissionControl.Store.Memory

namespace AdmissionControl

structure SlidingWindow where
  threshold : Nat
  window : Duration
  policy : FailurePolicy := .failClosed
  keyPrefix : String := "turnstile:sw:"
  timeout : Option Duration := none
  deriving DecidableEq, Repr, Inhabited

namespace SlidingWindow

def globalKey : String := "global"

def new (threshold : Nat) (window : Duration) : SlidingWindow × List Event :=
  let part := Part.limiter .slidingWindow
  let (window, windowReport) := normalizeDuration part .window window Defaults.window
  let (threshold, thresholdReport) :=
    normalizeCount part .threshold threshold Defaults.threshold
  ({ threshold, window }, windowReport ++ thresholdReport)

/-- A timeout of zero is none. -/
def withTimeout (limiter : SlidingWindow) (timeout : Duration) : SlidingWindow :=
  { limiter with timeout := if timeout.isZero then none else some timeout }

def request (limiter : SlidingWindow) (key : String) (now : Option Nat) : WindowRequest where
  key := limiter.keyPrefix ++ key
  window := limiter.window.wholeMillis
  threshold := limiter.threshold
  now := now

/-- What a store's answer comes to. A failure is decided by the policy. -/
def weigh (limiter : SlidingWindow) : StoreAnswer → Decision
  | .ok true => .granted
  | .ok false => .refuse .slidingWindowExhausted
  | .error _ =>
    match limiter.policy with
    | .failOpen => .granted
    | .failClosed => .refuse .backendUnavailable

end SlidingWindow

/-- A store's answer on its way: the moment at which it arrives, in milliseconds, and the moment at
which the limiter stops waiting for it. -/
structure Consultation where
  answer : StoreAnswer
  due : Nat
  giveUp : Option (Nat × Duration) := none

namespace Consultation

/-- The consultation of a store whose answer takes `delay` milliseconds. The limiter notices the
end of its timeout at a whole millisecond. -/
def start (answer : StoreAnswer) (delay now : Nat) (timeout : Option Duration) : Consultation where
  answer
  due := now + delay
  giveUp := timeout.map fun limit =>
    (ceilMilli (now * Duration.nanosPerMilli + limit.nanos), limit)

/-- How the consultation stands at a moment. An answer that is there counts, however late it came;
only if there is none the timeout does. -/
def outcome? (consultation : Consultation) (now : Nat) : Option StoreAnswer :=
  if consultation.due ≤ now then some consultation.answer
  else match consultation.giveUp with
    | some (moment, limit) => if moment ≤ now then some (.error (.timeout limit)) else none
    | none => none

/-- The first moment at which the consultation has an outcome. -/
def wake (consultation : Consultation) : Nat :=
  match consultation.giveUp with
  | some (moment, _) => min consultation.due moment
  | none => consultation.due

/-- The outcome for a limiter that sleeps until there is one. -/
def settled (consultation : Consultation) : StoreAnswer :=
  (consultation.outcome? consultation.wake).getD consultation.answer

end Consultation

end AdmissionControl
