import AdmissionControl.Error

namespace AdmissionControl

inductive Level where
  | trace
  | debug
  | info
  | warn
  | error
  deriving DecidableEq, Repr

def Level.name : Level → String
  | .trace => "TRACE"
  | .debug => "DEBUG"
  | .info => "INFO"
  | .warn => "WARN"
  | .error => "ERROR"

inductive Part where
  | limiter (kind : Kind)
  | breaker
  deriving DecidableEq, Repr

def Part.name : Part → String
  | .limiter kind => kind.name
  | .breaker => "circuit_breaker"

/-- The settings that a default replaces where they are not positive. -/
inductive Setting where
  | threshold
  | window
  | capacity
  | interval
  | rate
  | failureThreshold
  | recoveryTimeout
  | halfOpenMaxCalls
  deriving DecidableEq, Repr

def Setting.name : Setting → String
  | .threshold => "threshold"
  | .window => "window"
  | .capacity => "capacity"
  | .interval => "interval"
  | .rate => "rate"
  | .failureThreshold => "failure_threshold"
  | .recoveryTimeout => "recovery_timeout"
  | .halfOpenMaxCalls => "half_open_max_calls"

inductive Event where
  | countReplaced (part : Part) (setting : Setting) (default : Nat)
  | durationReplaced (part : Part) (setting : Setting) (default : Duration)
  | refillStarted (kind : Kind) (capacity : Nat) (period : Duration) (initial : Nat)
  | refillStopped (kind : Kind)
  | stackBuilt (limiters : Nat) (breaker : Bool)
  | requestRejected (kind : Kind) (reason : Reason) (key : Option String)
      (retryAfter : Option Duration)
  | storeFailed (key : String) (error : StoreError) (policy : FailurePolicy)
  | keysEvicted (dropped remaining : Nat)
  | circuitOpened (failures threshold : Nat)
  | trialFailed (failures : Nat)
  | circuitHalfOpened
  | trialStarted (inFlight limit : Nat)
  | circuitClosed
  deriving DecidableEq, Repr

namespace Event

def level : Event → Level
  | .keysEvicted .. => .trace
  | .refillStarted .. | .refillStopped _ | .stackBuilt .. | .requestRejected ..
  | .trialStarted .. => .debug
  | .circuitHalfOpened | .circuitClosed => .info
  | .countReplaced .. | .durationReplaced .. | .storeFailed .. | .trialFailed _ => .warn
  | .circuitOpened .. => .error

def message : Event → String
  | .countReplaced .. => "non-positive value replaced by default"
  | .durationReplaced .. => "non-positive duration replaced by default"
  | .refillStarted .. => "refill generator started"
  | .refillStopped _ => "refill generator stopped"
  | .stackBuilt .. => "admission stack built from config"
  | .requestRejected .. => "request rejected"
  | .storeFailed .. => "sliding window store unavailable"
  | .keysEvicted .. => "evicted idle window keys"
  | .circuitOpened .. => "Circuit breaker → open"
  | .trialFailed _ => "Circuit breaker: test failed → open"
  | .circuitHalfOpened => "Circuit breaker → half-open"
  | .trialStarted .. => "Circuit breaker: half-open test request"
  | .circuitClosed => "Circuit breaker → closed"

def hintText : Option Duration → String
  | none => "None"
  | some wait => s!"Some({wait.text})"

def fields : Event → List (String × String)
  | .countReplaced part setting default =>
    [("limiter", part.name), ("field", setting.name), ("default", toString default)]
  | .durationReplaced part setting default =>
    [("limiter", part.name), ("field", setting.name), ("default", default.text)]
  | .refillStarted kind capacity period initial =>
    [("limiter", kind.name), ("capacity", toString capacity), ("period", period.text),
      ("initial", toString initial)]
  | .refillStopped kind => [("limiter", kind.name)]
  | .stackBuilt limiters breaker =>
    [("limiters", toString limiters), ("circuit_breaker", toString breaker)]
  | .requestRejected kind reason key retryAfter =>
    [("limiter", kind.name), ("reason", reason.name), ("key", key.getD ""),
      ("retry_after", hintText retryAfter)]
  | .storeFailed key error policy =>
    [("key", key), ("error", error.message), ("policy", policy.label)]
  | .keysEvicted dropped remaining =>
    [("dropped", toString dropped), ("remaining", toString remaining)]
  | .circuitOpened failures threshold =>
    [("failures", toString failures), ("threshold", toString threshold)]
  | .trialFailed failures => [("failures", toString failures)]
  | .trialStarted inFlight limit => [("in_flight", toString inFlight), ("max", toString limit)]
  | .circuitHalfOpened | .circuitClosed => []

end Event

end AdmissionControl
