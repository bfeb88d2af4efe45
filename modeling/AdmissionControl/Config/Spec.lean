import AdmissionControl.Json.Printer
import AdmissionControl.Limiter.SlidingWindow

namespace AdmissionControl

/-- The description of one limiter. Spans are in milliseconds. -/
inductive LimiterSpec where
  | concurrency (threshold : Int64 := 0)
  | fixedWindow (threshold : Int64 := 0) (window : Int64 := 0)
  | slidingWindow (threshold : Int64 := 0) (window : Int64 := 0)
      (policy : FailurePolicy := .failClosed) (timeout : Int64 := 0)
      (keyPrefix : Option String := none)
  | tokenBucket (capacity : Int64 := 0) (interval : Int64 := 0) (initial : Int64 := 0)
  | leakyBucket (capacity : Int64 := 0) (rate : Int64 := 0) (initial : Option Int64 := none)
  deriving DecidableEq, Repr, Inhabited

structure BreakerSpec where
  failureThreshold : Int64 := 0
  recoveryTimeout : Int64 := 0
  halfOpenMaxCalls : Int64 := 0
  deriving DecidableEq, Repr, Inhabited

structure AdmissionConfig where
  limiters : List LimiterSpec := []
  circuitBreaker : Option BreakerSpec := none
  deriving DecidableEq, Repr, Inhabited

namespace LimiterSpec

def kind : LimiterSpec → Kind
  | concurrency .. => .concurrency
  | fixedWindow .. => .fixedWindow
  | slidingWindow .. => .slidingWindow
  | tokenBucket .. => .tokenBucket
  | leakyBucket .. => .leakyBucket

def ofKind : Kind → LimiterSpec
  | .concurrency => concurrency
  | .fixedWindow => fixedWindow
  | .slidingWindow => slidingWindow
  | .tokenBucket => tokenBucket
  | .leakyBucket => leakyBucket

def tag : String := "strategy"

/-- The members that describe a limiter of a kind, in their order. -/
def fields : Kind → List String
  | .concurrency => ["threshold"]
  | .fixedWindow => ["threshold", "window_ms"]
  | .slidingWindow => ["threshold", "window_ms", "failure_policy", "timeout_ms", "key_prefix"]
  | .tokenBucket => ["capacity", "interval_ms", "initial_tokens"]
  | .leakyBucket => ["capacity", "rate_ms", "initial_level"]

end LimiterSpec

namespace BreakerSpec

def fields : List String :=
  ["failure_threshold", "recovery_timeout_ms", "half_open_max_calls"]

end BreakerSpec

namespace AdmissionConfig

def fields : List String := ["limiters", "circuit_breaker"]

end AdmissionConfig

/-! ### As JSON -/

def Json.ofInt64 (value : Int64) : Json := .integer value.toInt

def Json.ofOption {α : Type} (write : α → Json) : Option α → Json
  | some value => write value
  | none => .null

def Json.ofMembers (members : List (String × Json)) : Json := .object members .closed

/-- The values of a limiter's members, in their order. -/
def LimiterSpec.values : LimiterSpec → List Json
  | concurrency threshold => [.ofInt64 threshold]
  | fixedWindow threshold window => [.ofInt64 threshold, .ofInt64 window]
  | slidingWindow threshold window policy timeout keyPrefix =>
    [.ofInt64 threshold, .ofInt64 window, .string policy.name, .ofInt64 timeout,
      .ofOption .string keyPrefix]
  | tokenBucket capacity interval initial =>
    [.ofInt64 capacity, .ofInt64 interval, .ofInt64 initial]
  | leakyBucket capacity rate initial =>
    [.ofInt64 capacity, .ofInt64 rate, .ofOption Json.ofInt64 initial]

def LimiterSpec.toJson (spec : LimiterSpec) : Json :=
  .ofMembers ((tag, .string spec.kind.name) :: (fields spec.kind).zip spec.values)

def BreakerSpec.toJson (spec : BreakerSpec) : Json :=
  .ofMembers (fields.zip
    [.ofInt64 spec.failureThreshold, .ofInt64 spec.recoveryTimeout, .ofInt64 spec.halfOpenMaxCalls])

def AdmissionConfig.toJson (config : AdmissionConfig) : Json :=
  .ofMembers (fields.zip
    [.array (config.limiters.map LimiterSpec.toJson) .closed,
      .ofOption BreakerSpec.toJson config.circuitBreaker])

def AdmissionConfig.text (config : AdmissionConfig) : String := config.toJson.text

end AdmissionControl
