import AdmissionControl.Decision

namespace AdmissionControl

inductive BreakerEvent where
  | opened
  | halfOpened
  | closed
  | rejected
  deriving DecidableEq, Repr, Inhabited

namespace BreakerEvent

def all : List BreakerEvent := [opened, halfOpened, closed, rejected]

def name : BreakerEvent → String
  | opened => "CircuitOpened"
  | halfOpened => "CircuitHalfOpen"
  | closed => "CircuitClosed"
  | rejected => "CircuitRejected"

end BreakerEvent

structure KindCounts where
  granted : Nat := 0
  rejected : Nat := 0
  abandoned : Nat := 0
  backendErrors : Nat := 0
  deriving DecidableEq, Repr, Inhabited

structure BreakerCounts where
  opened : Nat := 0
  halfOpened : Nat := 0
  closed : Nat := 0
  rejected : Nat := 0
  deriving DecidableEq, Repr, Inhabited

structure Metrics where
  concurrency : KindCounts := {}
  fixedWindow : KindCounts := {}
  slidingWindow : KindCounts := {}
  tokenBucket : KindCounts := {}
  leakyBucket : KindCounts := {}
  breaker : BreakerCounts := {}
  deriving DecidableEq, Repr, Inhabited

namespace Metrics

def ofKind (metrics : Metrics) : Kind → KindCounts
  | .concurrency => metrics.concurrency
  | .fixedWindow => metrics.fixedWindow
  | .slidingWindow => metrics.slidingWindow
  | .tokenBucket => metrics.tokenBucket
  | .leakyBucket => metrics.leakyBucket

def updateKind (metrics : Metrics) (kind : Kind) (change : KindCounts → KindCounts) : Metrics :=
  match kind with
  | .concurrency => { metrics with concurrency := change metrics.concurrency }
  | .fixedWindow => { metrics with fixedWindow := change metrics.fixedWindow }
  | .slidingWindow => { metrics with slidingWindow := change metrics.slidingWindow }
  | .tokenBucket => { metrics with tokenBucket := change metrics.tokenBucket }
  | .leakyBucket => { metrics with leakyBucket := change metrics.leakyBucket }

/-- Counts one decision. A caller that had gone is counted as abandoned, not as throttled. -/
def recordDecision (metrics : Metrics) (kind : Kind) (decision : Decision) : Metrics :=
  metrics.updateKind kind fun counts =>
    match decision with
    | .granted => { counts with granted := counts.granted + 1 }
    | .refused reason _ =>
      if reason.abandoned then { counts with abandoned := counts.abandoned + 1 }
      else { counts with rejected := counts.rejected + 1 }

def recordBackendError (metrics : Metrics) (kind : Kind) : Metrics :=
  metrics.updateKind kind fun counts => { counts with backendErrors := counts.backendErrors + 1 }

def recordBreaker (metrics : Metrics) (event : BreakerEvent) : Metrics :=
  let counts := metrics.breaker
  { metrics with
    breaker := match event with
      | .opened => { counts with opened := counts.opened + 1 }
      | .halfOpened => { counts with halfOpened := counts.halfOpened + 1 }
      | .closed => { counts with closed := counts.closed + 1 }
      | .rejected => { counts with rejected := counts.rejected + 1 } }

theorem foldl_recordBreaker (metrics : Metrics) (events : List BreakerEvent) :
    events.foldl recordBreaker metrics =
      { metrics with
        breaker := {
          opened := metrics.breaker.opened + events.count .opened
          halfOpened := metrics.breaker.halfOpened + events.count .halfOpened
          closed := metrics.breaker.closed + events.count .closed
          rejected := metrics.breaker.rejected + events.count .rejected } } := by
  induction events generalizing metrics with
  | nil => rfl
  | cons event rest ih =>
    rw [List.foldl_cons, ih]
    cases event <;> simp [recordBreaker, Nat.add_right_comm, Nat.add_assoc]

def installedMessage : String := "admission metrics are already installed for this process"

end Metrics

end AdmissionControl
