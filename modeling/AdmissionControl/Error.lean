import AdmissionControl.Decision

namespace AdmissionControl

inductive Status where
  | resourceExhausted
  | unavailable
  | cancelled
  | deadlineExceeded
  deriving DecidableEq, Repr

namespace Status

def all : List Status := [resourceExhausted, unavailable, cancelled, deadlineExceeded]

def name : Status → String
  | resourceExhausted => "RESOURCE_EXHAUSTED"
  | unavailable => "UNAVAILABLE"
  | cancelled => "CANCELLED"
  | deadlineExceeded => "DEADLINE_EXCEEDED"

end Status

structure CircuitOpen where
  failures : Nat
  openFor : Duration
  deriving DecidableEq, Repr, Inhabited

def CircuitOpen.message (refusal : CircuitOpen) : String :=
  s!"circuit breaker open: {refusal.failures} failures, open for {refusal.openFor.text}"

/-- How a request fails: at a limiter, at a breaker, by its caller's leaving, or in the handler,
whose own errors have type `ε`. -/
inductive AdmissionError (ε : Type u) where
  | rejected (reason : Reason) (retryAfter : Option Duration)
  | backendUnavailable (reason : String)
  | circuitOpen (refusal : CircuitOpen)
  | cancelled
  | deadlineExceeded
  | inner (error : ε)
  deriving DecidableEq, Repr, Inhabited

namespace AdmissionError

variable {ε : Type u} {δ : Type v}

def ofRefusal (reason : Reason) (retryAfter : Option Duration) : AdmissionError ε :=
  match reason with
  | .cancelled => .cancelled
  | .deadlineExceeded => .deadlineExceeded
  | .backendUnavailable => .backendUnavailable reason.name
  | _ => .rejected reason retryAfter

def message (innerMessage : ε → String) : AdmissionError ε → String
  | .rejected reason (some wait) => s!"request rejected: {reason.name} (retry after {wait.text})"
  | .rejected reason none => s!"request rejected: {reason.name}"
  | .backendUnavailable reason => s!"admission backend unavailable: {reason}"
  | .circuitOpen refusal =>
    s!"circuit breaker open ({refusal.failures} failures, open for {refusal.openFor.text})"
  | .cancelled => "request cancelled before admission"
  | .deadlineExceeded => "request deadline exceeded before admission"
  | .inner error => innerMessage error

/-- The status to report. The handler's errors have none: they are the handler's. -/
def status? : AdmissionError ε → Option Status
  | .rejected .. => some .resourceExhausted
  | .backendUnavailable _ | .circuitOpen _ => some .unavailable
  | .cancelled => some .cancelled
  | .deadlineExceeded => some .deadlineExceeded
  | .inner _ => none

def isRejected : AdmissionError ε → Bool
  | .rejected .. => true
  | _ => false

def isCircuitOpen : AdmissionError ε → Bool
  | .circuitOpen _ => true
  | _ => false

def isBackendUnavailable : AdmissionError ε → Bool
  | .backendUnavailable _ => true
  | _ => false

def inner? : AdmissionError ε → Option ε
  | .inner error => some error
  | _ => none

def isInner (error : AdmissionError ε) : Bool := error.inner?.isSome

def rejectReason? : AdmissionError ε → Option Reason
  | .rejected reason _ => some reason
  | _ => none

def retryAfter? : AdmissionError ε → Option Duration
  | .rejected _ wait => wait
  | _ => none

/-- Replaces the handler's error and keeps every other error as it is. -/
def bindInner (error : AdmissionError ε) (next : ε → AdmissionError δ) : AdmissionError δ :=
  match error with
  | .rejected reason wait => .rejected reason wait
  | .backendUnavailable reason => .backendUnavailable reason
  | .circuitOpen refusal => .circuitOpen refusal
  | .cancelled => .cancelled
  | .deadlineExceeded => .deadlineExceeded
  | .inner cause => next cause

def mapInner (change : ε → δ) (error : AdmissionError ε) : AdmissionError δ :=
  error.bindInner fun cause => .inner (change cause)

/-- Collapses the two levels that arise where one layer wraps another. -/
def flatten (error : AdmissionError (AdmissionError ε)) : AdmissionError ε :=
  error.bindInner id

end AdmissionError

def Decision.toExcept {ε : Type u} : Decision → Except (AdmissionError ε) Unit
  | .granted => .ok ()
  | .refused reason retryAfter => .error (.ofRefusal reason retryAfter)

def CircuitOpen.toError {ε : Type u} (refusal : CircuitOpen) : AdmissionError ε :=
  .circuitOpen refusal

inductive StoreError where
  | unavailable (text : String)
  | script (text : String)
  | timeout (after : Duration)
  | unexpectedReply (text : String)
  deriving DecidableEq, Repr, Inhabited

def StoreError.message : StoreError → String
  | .unavailable text => s!"store unavailable: {text}"
  | .script text => s!"store script failed: {text}"
  | .timeout after => s!"store call timed out after {after.text}"
  | .unexpectedReply text => s!"unexpected store reply: {text}"

inductive FailurePolicy where
  | failOpen
  | failClosed
  deriving DecidableEq, Repr

instance : Inhabited FailurePolicy := ⟨.failClosed⟩

def FailurePolicy.name : FailurePolicy → String
  | .failOpen => "fail_open"
  | .failClosed => "fail_closed"

def FailurePolicy.label : FailurePolicy → String
  | .failOpen => "FailOpen"
  | .failClosed => "FailClosed"

inductive ConfigError where
  | noRuntime
  | missingWindowStore
  | invalidHalfOpenLimit (provided : Nat)
  deriving DecidableEq, Repr, Inhabited

def ConfigError.message : ConfigError → String
  | .noRuntime => "bucket limiters must be created inside a tokio runtime"
  | .missingWindowStore => "sliding_window limiter configured but no window store was provided"
  | .invalidHalfOpenLimit provided => s!"half_open_max_calls must be > 0 (got {provided})"

end AdmissionControl
