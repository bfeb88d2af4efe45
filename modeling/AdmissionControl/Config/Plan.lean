import AdmissionControl.Breaker.Basic
import AdmissionControl.Config.Spec

namespace AdmissionControl

def countOf (value : Int64) : Nat := value.toInt.toNat

def spanOf (millis : Int64) : Duration := .ofMillis millis.toInt.toNat

/-- Everything that is needed to build a limiter, before defaults are put in. -/
inductive LimiterPlan where
  | concurrency (threshold : Nat)
  | fixedWindow (threshold : Nat) (window : Duration)
  | slidingWindow (threshold : Nat) (window : Duration) (policy : FailurePolicy)
      (timeout : Duration) (keyPrefix : Option String)
  | tokenBucket (capacity : Nat) (interval : Duration) (initial : Nat)
  | leakyBucket (capacity : Nat) (rate : Duration) (initial : Nat)
  deriving DecidableEq, Repr

namespace LimiterPlan

/-- The plan of a token bucket starts empty if nothing else is said, that of a leaky one full. -/
def ofSpec : LimiterSpec → LimiterPlan
  | .concurrency threshold => concurrency (countOf threshold)
  | .fixedWindow threshold window => fixedWindow (countOf threshold) (spanOf window)
  | .slidingWindow threshold window policy timeout keyPrefix =>
    slidingWindow (countOf threshold) (spanOf window) policy (spanOf timeout) keyPrefix
  | .tokenBucket capacity interval initial =>
    tokenBucket (countOf capacity) (spanOf interval) (countOf initial)
  | .leakyBucket capacity rate initial =>
    leakyBucket (countOf capacity) (spanOf rate) ((initial.map countOf).getD unlimited)

end LimiterPlan

def BreakerSpec.settings (spec : BreakerSpec) : BreakerSettings × List Event :=
  BreakerSettings.normalized (countOf spec.failureThreshold) (spanOf spec.recoveryTimeout)
    (countOf spec.halfOpenMaxCalls)

end AdmissionControl
