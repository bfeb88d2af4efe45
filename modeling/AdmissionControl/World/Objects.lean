import AdmissionControl.Breaker.Allow
import AdmissionControl.Breaker.Verdict
import AdmissionControl.Context
import AdmissionControl.Limiter.Bucket
import AdmissionControl.Limiter.Concurrency
import AdmissionControl.Limiter.FixedWindow
import AdmissionControl.Limiter.SlidingWindow
import AdmissionControl.Store.Memory
import AdmissionControl.Store.Scripted

namespace AdmissionControl

/-- A clock in milliseconds that is set by hand. -/
structure Clock where
  now : Nat := 0
  deriving DecidableEq, Repr, Inhabited

/-- Moves a clock on. Its word of 64 bits overflows to zero. -/
def Clock.advance (clock : Clock) (millis : Nat) : Clock := ⟨(clock.now + millis) % UInt64.size⟩

/-- A breaker in use: the clock that it reads, and the error texts for which it does not blame its
handler. -/
structure Circuit where
  breaker : Breaker
  clock : Ref Clock
  blameless : List String := []
  deriving Inhabited

def Circuit.blames (circuit : Circuit) (text : String) : Bool := !circuit.blameless.contains text

/-- A second caller who gets in while a clock is read: after `skip` readings it asks the breaker
for a permit and returns it with the verdict, or keeps it where there is none. -/
structure Interruption where
  clock : Ref Clock
  skip : Nat := 0
  circuit : Ref Circuit
  verdict : Option Verdict

structure Sighting where
  clock : Ref Clock
  answer : Except CircuitOpen Permit
  breaker : Breaker

/-- A window store, and for one in memory the clock for requests that bring no moment. -/
inductive Store where
  | memory (store : MemoryStore) (clock : Ref Clock)
  | scripted (store : ScriptedStore)

instance : Inhabited Store := ⟨.memory {} default⟩

/-- A limiter of any kind. A sliding window sends its requests a moment only if it has a clock. -/
inductive Limiter where
  | concurrency (limiter : Concurrency)
  | fixedWindow (limiter : FixedWindow) (clock : Ref Clock)
  | slidingWindow (limiter : SlidingWindow) (store : Ref Store) (clock : Option (Ref Clock))
  | tokenBucket (bucket : Bucket)
  | leakyBucket (bucket : Bucket)

instance : Inhabited Limiter := ⟨.concurrency default⟩

namespace Limiter

def kind : Limiter → Kind
  | .concurrency _ => .concurrency
  | .fixedWindow .. => .fixedWindow
  | .slidingWindow .. => .slidingWindow
  | .tokenBucket _ => .tokenBucket
  | .leakyBucket _ => .leakyBucket

def mapBucket (change : Bucket → Bucket) : Limiter → Limiter
  | .tokenBucket bucket => .tokenBucket (change bucket)
  | .leakyBucket bucket => .leakyBucket (change bucket)
  | other => other

def bucket? : Limiter → Option Bucket
  | .tokenBucket bucket | .leakyBucket bucket => some bucket
  | _ => none

def complete : Limiter → Limiter
  | .concurrency limiter => .concurrency limiter.release
  | other => other

end Limiter

end AdmissionControl
