import AdmissionControl.Proofs.Pipeline.Unseen
/-!
Services as they are built, one inside the other. A layer lets a call through to the service inside
it, waits for what comes of it, wraps an error that comes from there once more, and only then gives
back what it holds. So a call is nested as deep as there are layers, and so are its errors.
-/

namespace AdmissionControl

/-- The errors of a service: those of its handler, wrapped once for each layer around it. -/
def Nested : List Layer → Type
  | [] => String
  | _ :: rest => AdmissionError (Nested rest)

namespace Nested

def text : (layers : List Layer) → Nested layers → String
  | [], error => error
  | _ :: rest, error => AdmissionError.message (text rest) error

def collapse : (layers : List Layer) → AdmissionError (Nested layers) → AdmissionError String
  | [], error => error
  | _ :: rest, error => collapse rest error.flatten

theorem message_collapse (layers : List Layer) (error : AdmissionError (Nested layers)) :
    (collapse layers error).message id = error.message (text layers) := by
  induction layers with
  | nil => rfl
  | cons layer rest ih =>
    rw [collapse, ih]
    cases error with
    | rejected reason wait => cases wait <;> rfl
    | _ => rfl

/-- An error that does not come from the handler is the same at every level. -/
theorem collapse_ofRefusal (layers : List Layer) (reason : Reason)
    (retryAfter : Option Duration) :
    collapse layers (.ofRefusal reason retryAfter) = .ofRefusal reason retryAfter := by
  induction layers with
  | nil => rfl
  | cons layer rest ih =>
    rw [collapse, ← ih]
    cases reason <;> rfl

theorem collapse_toError (layers : List Layer) (refusal : CircuitOpen) :
    collapse layers refusal.toError = refusal.toError := by
  induction layers with
  | nil => rfl
  | cons layer rest ih =>
    rw [collapse, ← ih]
    rfl

end Nested

/-- How far a call has come in a service with these layers: its handler runs, or it waits for the
store of a limiter, or it stands somewhere inside a layer that let it through. -/
inductive Descent : List Layer → Type where
  | handling : Descent []
  | consulting {limiter : Ref Limiter} {ofRequest : Bool} {rest : List Layer} (context : Context)
      (consultation : Consultation) : Descent (.limiter limiter ofRequest :: rest)
  | admitted {limiter : Ref Limiter} {ofRequest : Bool} {rest : List Layer} (inner : Descent rest) :
      Descent (.limiter limiter ofRequest :: rest)
  | permitted {breaker : Ref Circuit} {rest : List Layer} (permit : Permit) (inner : Descent rest) :
      Descent (.breaker breaker :: rest)

def Context.shown (context : Context) (ofRequest : Bool) : Context :=
  if ofRequest then context else {}

/-- What a call has come to before its handler was called, or a call that is still under way. -/
abbrev Entered (layers : List Layer) : Type := Except (Nested layers) (Descent layers)

namespace World

variable {layers rest : List Layer}

/-- Returns a breaker's permit with the verdict on what came from inside its layer. -/
def judge (world : World) (breaker : Ref Circuit) (permit : Permit)
    (result : Except (Nested rest) Unit) : World :=
  world.resolve breaker permit
    (.ofResult (fun error => (world.circuits.get breaker).blames (Nested.text rest error))
      (result.mapError AdmissionError.inner))

def insideLimiter (limiter : Ref Limiter) (ofRequest : Bool) :
    Entered rest × World → Entered (.limiter limiter ofRequest :: rest) × World
  | (.ok call, world) => (.ok (.admitted call), world)
  | (.error error, world) => (.error (.inner error), world.complete limiter)

def insideBreaker (breaker : Ref Circuit) (permit : Permit) :
    Entered rest × World → Entered (.breaker breaker :: rest) × World
  | (.ok call, world) => (.ok (.permitted permit call), world)
  | (.error error, world) => (.error (.inner error), world.judge breaker permit (.error error))

/-- A limiter's layer has a decision. A call that is let through enters the service inside. -/
def decided (world : World) (limiter : Ref Limiter) (ofRequest : Bool) (context : Context)
    (decision : Decision) (inside : World → Entered rest × World) :
    Entered (.limiter limiter ofRequest :: rest) × World :=
  let world := world.account limiter (context.shown ofRequest) decision
  match decision.toExcept with
  | .ok () => insideLimiter limiter ofRequest (inside world)
  | .error error => (.error error, world)

/-- Calls a service, as far as the call comes by itself. -/
def enter (context : Context) : (layers : List Layer) → World → Entered layers × World
  | [], world => (.ok .handling, world)
  | .limiter limiter ofRequest :: rest, world =>
    match world.ask limiter (context.shown ofRequest) with
    | (.waiting consultation, world) => (.ok (.consulting context consultation), world)
    | (.decided decision, world) =>
      world.decided limiter ofRequest context decision (enter context rest)
  | .breaker breaker :: rest, world =>
    match world.allow breaker with
    | (.ok permit, world) => insideBreaker breaker permit (enter context rest world)
    | (.error refusal, world) => (.error refusal.toError, world)

/-- Wakes a call. One that waits for a store goes on if the store has answered. -/
def wake : {layers : List Layer} → Descent layers → World → Entered layers × World
  | [], .handling, world => (.ok .handling, world)
  | .limiter limiter ofRequest :: rest, .consulting context consultation, world =>
    match consultation.outcome? world.now with
    | none => (.ok (.consulting context consultation), world)
    | some answer =>
      let (decision, world) := world.answered limiter (context.shown ofRequest) answer
      world.decided limiter ofRequest context decision (enter context rest)
  | .limiter limiter ofRequest :: _, .admitted inner, world =>
    insideLimiter limiter ofRequest (wake inner world)
  | .breaker breaker :: _, .permitted permit inner, world =>
    insideBreaker breaker permit (wake inner world)

/-- The handler ends, if it runs, and its result comes out through one layer after the other. -/
def finish : {layers : List Layer} → Descent layers → Except String Unit → World →
    Option (Except (Nested layers) Unit × World)
  | [], .handling, result, world => some (result, world)
  | .limiter .. :: _, .consulting .., _, _ => none
  | .limiter limiter _ :: _, .admitted inner, result, world =>
    (finish inner result world).map fun (result, world) =>
      (result.mapError AdmissionError.inner, world.complete limiter)
  | .breaker breaker :: _, .permitted permit inner, result, world =>
    (finish inner result world).map fun (result, world) =>
      (result.mapError AdmissionError.inner, world.judge breaker permit result)

/-- Drops a call: what is inside a layer is dropped before what the layer holds. -/
def dropCall : {layers : List Layer} → Descent layers → World → World
  | [], .handling, world => world
  | .limiter .. :: _, .consulting .., world => world
  | .limiter limiter _ :: _, .admitted inner, world => (dropCall inner world).complete limiter
  | .breaker breaker :: _, .permitted permit inner, world =>
    (dropCall inner world).resolve breaker permit .none

/-! A call sees neither the requests that are noted nor the alarms. -/

variable (requests : Table Request) (alarms : List Alarm)

private theorem judge_note (world : World) (breaker : Ref Circuit) (permit : Permit)
    (result : Except (Nested rest) Unit) :
    (world.note requests alarms).judge breaker permit result =
      (world.judge breaker permit result).note requests alarms :=
  resolve_note requests alarms world breaker permit _

private theorem insideLimiter_note (limiter : Ref Limiter) (ofRequest : Bool)
    (entered : Entered rest × World) :
    insideLimiter limiter ofRequest (noted requests alarms entered) =
      noted requests alarms (insideLimiter limiter ofRequest entered) := by
  obtain ⟨call | error, world⟩ := entered <;> rfl

theorem insideBreaker_note (breaker : Ref Circuit) (permit : Permit)
    (entered : Entered rest × World) :
    insideBreaker breaker permit (noted requests alarms entered) =
      noted requests alarms (insideBreaker breaker permit entered) := by
  obtain ⟨error | call, world⟩ := entered
  · exact congrArg (Prod.mk _) (judge_note requests alarms world breaker permit _)
  · rfl

private theorem decided_note (world : World) (limiter : Ref Limiter) (ofRequest : Bool)
    (context : Context) (decision : Decision) {inside : World → Entered rest × World}
    (blind : ∀ world, inside (world.note requests alarms) = noted requests alarms (inside world)) :
    (world.note requests alarms).decided limiter ofRequest context decision inside =
      noted requests alarms (world.decided limiter ofRequest context decision inside) := by
  simp only [decided, account_note, blind]
  cases decision with
  | granted => exact insideLimiter_note requests alarms limiter ofRequest _
  | refused reason retryAfter => rfl

private theorem enter_note (context : Context) (layers : List Layer) (world : World) :
    (world.note requests alarms).enter context layers =
      noted requests alarms (world.enter context layers) := by
  induction layers generalizing world with
  | nil => rfl
  | cons layer rest ih =>
    cases layer with
    | limiter limiter ofRequest =>
      simp only [enter, ask_note]
      obtain ⟨decision | consultation, left⟩ := world.ask limiter (context.shown ofRequest)
      · exact decided_note requests alarms left limiter ofRequest context decision ih
      · rfl
    | breaker breaker =>
      simp only [enter, allow_note]
      obtain ⟨refusal | permit, left⟩ := world.allow breaker
      · rfl
      · simp only [noted, ih]
        exact insideBreaker_note requests alarms breaker permit _

private theorem wake_note (call : Descent layers) (world : World) :
    (world.note requests alarms).wake call = noted requests alarms (world.wake call) := by
  induction call generalizing world with
  | handling => rfl
  | @consulting limiter ofRequest rest context consultation =>
    have now : (world.note requests alarms).now = world.now := rfl
    simp only [wake, now, answered_note]
    cases consultation.outcome? world.now with
    | none => rfl
    | some answer =>
      exact decided_note requests alarms _ limiter ofRequest context _
        (enter_note requests alarms context rest)
  | admitted inner ih =>
    simp only [wake, ih]
    exact insideLimiter_note requests alarms _ _ _
  | permitted permit inner ih =>
    simp only [wake, ih]
    exact insideBreaker_note requests alarms _ _ _

variable {one other : World}

theorem Matches.enter (same : one.Matches other) (context : Context) (layers : List Layer) :
    one.enter context layers = noted one.requests one.alarms (other.enter context layers) :=
  (congrArg (World.enter context layers) same.eq_note).trans (enter_note _ _ _ _ _)

theorem Matches.wake (same : one.Matches other) (call : Descent layers) :
    one.wake call = noted one.requests one.alarms (other.wake call) :=
  (congrArg (World.wake call) same.eq_note).trans (wake_note _ _ _ _)

end World

end AdmissionControl
