import AdmissionControl.Settings

namespace AdmissionControl

structure Concurrency where
  threshold : Nat
  inFlight : Nat := 0
  deriving DecidableEq, Repr, Inhabited

namespace Concurrency

def new (threshold : Nat) : Concurrency × List Event :=
  let (threshold, report) :=
    normalizeCount (.limiter .concurrency) .threshold threshold Defaults.threshold
  ({ threshold }, report)

def take (limiter : Concurrency) : Bool × Concurrency :=
  if limiter.threshold ≤ limiter.inFlight then (false, limiter)
  else (true, { limiter with inFlight := limiter.inFlight + 1 })

/-- Hands a slot back. Where none is taken there is nothing to hand back. -/
def release (limiter : Concurrency) : Concurrency :=
  { limiter with inFlight := limiter.inFlight - 1 }

def decide (limiter : Concurrency) : Decision × Concurrency :=
  match limiter.take with
  | (true, limiter) => (.granted, limiter)
  | (false, limiter) => (.refuse .concurrencyLimit, limiter)

end Concurrency

end AdmissionControl
