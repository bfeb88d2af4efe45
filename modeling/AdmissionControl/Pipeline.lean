import AdmissionControl.World.Objects

namespace AdmissionControl

/-- Limiters in order, then an optional breaker, then the handler. -/
structure Stack where
  limiters : List (Ref Limiter) := []
  breaker : Option (Ref Circuit) := none
  deriving Inhabited

/-- A layer of a service. A limiter sees the context of the request or an empty one. -/
inductive Layer where
  | limiter (limiter : Ref Limiter) (ofRequest : Bool)
  | breaker (breaker : Ref Circuit)

/-- Layers around a handler, the outermost first. A handler that never becomes ready fails with
its own error before anything is asked. -/
structure Service where
  layers : List Layer := []
  unready : Option String := none
  deriving Inhabited

inductive Pipeline where
  | limiter (limiter : Ref Limiter)
  | breaker (breaker : Ref Circuit)
  | stack (stack : Stack)
  | service (service : Service)

/-- One thing that a request has to pass, with what it shows of its context. -/
inductive Stage where
  | limiter (limiter : Ref Limiter) (context : Context)
  | breaker (breaker : Ref Circuit)

/-- How the stages of a pipeline see each other's errors. In a closure they are passed on as they
are. In layers whatever comes from inside is the handler's error to the layer around it. -/
inductive Nesting where
  | closure
  | layered
  deriving DecidableEq, Repr, Inhabited

namespace Pipeline

/-- The stages of a stack, its breaker last. -/
def stackStages (context : Context) (stack : Stack) : List Stage :=
  stack.limiters.map (Stage.limiter · context) ++ stack.breaker.toList.map Stage.breaker

/-- The stages of a service, the outermost first. -/
def layerStages (context : Context) (layers : List Layer) : List Stage :=
  layers.map fun
    | .limiter ref ofRequest => .limiter ref (if ofRequest then context else {})
    | .breaker ref => .breaker ref

def stages (context : Context) : Pipeline → List Stage
  | .limiter ref => [.limiter ref context]
  | .breaker ref => [.breaker ref]
  | .stack limiters => stackStages context limiters
  | .service layered => layerStages context layered.layers

def nesting : Pipeline → Nesting
  | .service _ => .layered
  | _ => .closure

/-- The error with which a pipeline fails before anything is asked. -/
def unready? : Pipeline → Option String
  | .service layered => layered.unready
  | _ => none

end Pipeline

/-- The verdict on a call's result for a breaker around it. Inside layers it sees every error as
its handler's. -/
def Nesting.verdict {α : Type u} (nesting : Nesting) (circuit : Circuit)
    (result : Except (AdmissionError String) α) : Verdict :=
  match nesting with
  | .closure => .ofResult circuit.blames result
  | .layered =>
    .ofResult (fun error => circuit.blames (AdmissionError.message id error))
      (result.mapError AdmissionError.inner)

inductive Outcome where
  | success
  | failure (error : AdmissionError String)
  | panic
  deriving DecidableEq, Repr

namespace Outcome

/-- The result that a handler leaves behind. One that panics leaves none. -/
def result? : Outcome → Option (Except (AdmissionError String) Unit)
  | .success => some (.ok ())
  | .failure error => some (.error error)
  | .panic => none

/-- The verdict on a handler for a breaker around it. Where there is no result there is none. -/
def verdict (outcome : Outcome) (nesting : Nesting) (circuit : Circuit) : Verdict :=
  match outcome.result? with
  | some result => nesting.verdict circuit result
  | none => .none

end Outcome

/-- What a handler will do: after so many milliseconds it ends. -/
structure Response where
  delay : Nat := 0
  outcome : Outcome := .success
  deriving Repr

/-- What a request holds while it is inside a stage that let it through. -/
inductive Held where
  | completion (limiter : Ref Limiter)
  | permit (breaker : Ref Circuit) (permit : Permit)

/-- Where a request stands. In `handling` its handler was called and has yet to be told what to
do, and in `resting` it will end at a moment. -/
inductive Phase where
  | fresh
  | consulting (limiter : Ref Limiter) (context : Context) (consultation : Consultation)
  | handling
  | resting (moment : Nat) (outcome : Outcome)
  | answered (outcome : Outcome)
  | failed (error : AdmissionError String)
  | dropped

/-- A request on its way: the stages still ahead, and what it holds, in the order in which that goes
back. -/
structure Request where
  nesting : Nesting := .closure
  ahead : List Stage := []
  held : List Held := []
  phase : Phase := .fresh
  polled : Bool := false
  response : Option Response := none

instance : Inhabited Request := ⟨{}⟩

namespace Request

def called (request : Request) : Bool :=
  match request.phase with
  | .handling | .resting .. | .answered _ => true
  | _ => false

/-- How the request has ended for its caller: with what its handler came to, or with an error from
a stage before it. -/
def outcome? (request : Request) : Option Outcome :=
  match request.phase with
  | .answered outcome => some outcome
  | .failed error => some (.failure error)
  | _ => none

def done (request : Request) : Bool := request.polled && request.outcome?.isSome

def wake? (request : Request) : Option Nat :=
  match request.phase with
  | .consulting _ _ consultation => some consultation.wake
  | .resting moment _ => some moment
  | _ => none

/-- Keeps something to give back at the end. In layers the innermost goes back first. In a closure
the breaker's permit goes back first, and then each limiter is told, in the order of the stages. -/
def hold (request : Request) (held : Held) : Request :=
  match request.nesting, held with
  | .closure, .completion _ => { request with held := request.held ++ [held] }
  | _, _ => { request with held := held :: request.held }

@[simp] theorem hold_nesting (request : Request) (held : Held) :
    (request.hold held).nesting = request.nesting := by
  unfold hold
  split <;> rfl

@[simp] theorem hold_response (request : Request) (held : Held) :
    (request.hold held).response = request.response := by
  unfold hold
  split <;> rfl

end Request

end AdmissionControl
