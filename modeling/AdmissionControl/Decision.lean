import AdmissionControl.Duration

namespace AdmissionControl

inductive Kind where
  | concurrency
  | fixedWindow
  | slidingWindow
  | tokenBucket
  | leakyBucket
  deriving DecidableEq, Repr, Inhabited

namespace Kind

def all : List Kind := [concurrency, fixedWindow, slidingWindow, tokenBucket, leakyBucket]

def name : Kind → String
  | concurrency => "concurrency"
  | fixedWindow => "fixed_window"
  | slidingWindow => "sliding_window"
  | tokenBucket => "token_bucket"
  | leakyBucket => "leaky_bucket"

end Kind

inductive Reason where
  | concurrencyLimit
  | windowExhausted
  | slidingWindowExhausted
  | bucketEmpty
  | tokensExhausted
  | backendUnavailable
  | cancelled
  | deadlineExceeded
  | shutDown
  deriving DecidableEq, Repr, Inhabited

namespace Reason

def all : List Reason :=
  [concurrencyLimit, windowExhausted, slidingWindowExhausted, bucketEmpty, tokensExhausted,
    backendUnavailable, cancelled, deadlineExceeded, shutDown]

def name : Reason → String
  | concurrencyLimit => "concurrency_limit"
  | windowExhausted => "window_exhausted"
  | slidingWindowExhausted => "sliding_window_exhausted"
  | bucketEmpty => "bucket_empty"
  | tokensExhausted => "tokens_exhausted"
  | backendUnavailable => "backend_unavailable"
  | cancelled => "cancelled"
  | deadlineExceeded => "deadline_exceeded"
  | shutDown => "shut_down"

/-- The caller itself had gone: nothing was throttled. -/
def abandoned : Reason → Bool
  | cancelled | deadlineExceeded => true
  | _ => false

end Reason

inductive Decision where
  | granted
  | refused (reason : Reason) (retryAfter : Option Duration)
  deriving DecidableEq, Repr, Inhabited

namespace Decision

def refuse (reason : Reason) : Decision := .refused reason none

def refuseFor (reason : Reason) (wait : Duration) : Decision := .refused reason (some wait)

def isGranted : Decision → Bool
  | .granted => true
  | .refused .. => false

def reason? : Decision → Option Reason
  | .granted => none
  | .refused reason _ => some reason

end Decision

end AdmissionControl
