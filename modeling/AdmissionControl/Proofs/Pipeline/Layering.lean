import AdmissionControl.Proofs.Pipeline.GivingBack
import AdmissionControl.Proofs.Pipeline.Tower
/-!
A request passes its stages one after the other as a call passes the services that are nested in
one another. What the request has ahead of it and what it holds is spread over the layers of the
call, and its error is that of the call with all levels collapsed.
-/

namespace AdmissionControl

namespace Descent

def phase : {layers : List Layer} → Descent layers → Phase
  | [], .handling => .handling
  | .limiter limiter ofRequest :: _, .consulting context consultation =>
    .consulting limiter (context.shown ofRequest) consultation
  | .limiter .. :: _, .admitted inner => phase inner
  | .breaker _ :: _, .permitted _ inner => phase inner

def ahead : {layers : List Layer} → Descent layers → List Stage
  | [], .handling => []
  | .limiter .. :: rest, .consulting context _ => Pipeline.layerStages context rest
  | .limiter .. :: _, .admitted inner => ahead inner
  | .breaker _ :: _, .permitted _ inner => ahead inner

/-- What the layers hold, the innermost first. -/
def held : {layers : List Layer} → Descent layers → List Held
  | [], .handling => []
  | .limiter .. :: _, .consulting .. => []
  | .limiter limiter _ :: _, .admitted inner => held inner ++ [.completion limiter]
  | .breaker breaker :: _, .permitted permit inner => held inner ++ [.permit breaker permit]

theorem waits {layers : List Layer} (call : Descent layers) :
    call.phase = .handling ∨
      ∃ limiter context consultation, call.phase = .consulting limiter context consultation := by
  induction call with
  | handling => exact .inl rfl
  | consulting context consultation => exact .inr ⟨_, _, _, rfl⟩
  | admitted inner ih => exact ih
  | permitted permit inner ih => exact ih

end Descent

/-- A breaker's layer gives the verdict that its pipeline gives. In a closure that is so if there
is nothing inside it but the handler. -/
def Judges (nesting : Nesting) : List Layer → Prop
  | [] => True
  | .limiter .. :: rest => Judges nesting rest
  | .breaker _ :: rest => (nesting = .layered ∨ rest = []) ∧ Judges nesting rest

def outcomeOf (layers : List Layer) : Except (Nested layers) Unit → Outcome
  | .ok () => .success
  | .error error => .failure (Nested.collapse layers (.inner error))

variable {nesting : Nesting} {layers rest : List Layer} {outer : List Held} {world : World}

/-- A request stands where a call stands that is itself inside layers which hold something. -/
structure Stands (nesting : Nesting) (outer : List Held) (call : Descent layers)
    (request : Request) : Prop where
  nested : request.nesting = nesting
  untold : request.response = none
  phase : request.phase = call.phase
  ahead : request.ahead = call.ahead
  held : Reorders request.held (call.held ++ outer)

/-- A request has come as far as a call. If the call has failed, so has the request, and it has
given back what the outer layers hold as well. -/
def Reaches (nesting : Nesting) (outer : List Held) (reached : Request × World) :
    Entered layers × World → Prop
  | (.ok call, world) => reached.2 = world ∧ Stands nesting outer call reached.1
  | (.error error, world) =>
    reached.1.phase = .failed (Nested.collapse layers (.inner error)) ∧
      reached.2 = world.giveBack
        ((outcomeOf layers (.error error)).verdict nesting) outer

private theorem outcomeOf_inner (layer : Layer) (result : Except (Nested rest) Unit) :
    outcomeOf (layer :: rest) (result.mapError AdmissionError.inner) = outcomeOf rest result := by
  cases result <;> rfl

private theorem verdict_layered (circuit : Circuit) (result : Except (Nested rest) Unit) :
    (outcomeOf rest result).verdict .layered circuit =
      .ofResult (fun error => circuit.blames (Nested.text rest error))
        (result.mapError AdmissionError.inner) := by
  cases result with
  | ok done => rfl
  | error error =>
    have worded := Nested.message_collapse rest (.inner error)
    exact congrArg (fun text => if circuit.blames text then Verdict.failure else .success) worded

private theorem verdict_handler (nesting : Nesting) (circuit : Circuit)
    (result : Except (Nested []) Unit) :
    (outcomeOf [] result).verdict nesting circuit =
      .ofResult (fun error => circuit.blames (Nested.text [] error))
        (result.mapError AdmissionError.inner) := by
  cases nesting with
  | layered => exact verdict_layered circuit result
  | closure => cases result <;> rfl

private theorem judge_eq {breaker : Ref Circuit}
    (judges : Judges nesting (.breaker breaker :: rest))
    (world : World) (permit : Permit) (result : Except (Nested rest) Unit) :
    world.judge breaker permit result =
      world.resolve breaker permit
        ((outcomeOf rest result).verdict nesting (world.circuits.get breaker)) := by
  rcases judges.1 with rfl | rfl
  · rw [verdict_layered]
    rfl
  · rw [verdict_handler]
    rfl

namespace Stands

variable {request : Request} {inner : Descent rest}

private theorem insideLimiter {limiter : Ref Limiter} {ofRequest : Bool}
    (stands : Stands nesting outer
      (.admitted inner : Descent (.limiter limiter ofRequest :: rest)) request) :
    Stands nesting (.completion limiter :: outer) inner request := by
  refine ⟨stands.nested, stands.untold, stands.phase, stands.ahead, ?_⟩
  have held := stands.held
  rwa [Descent.held, List.append_assoc] at held

private theorem insideBreaker {breaker : Ref Circuit} {permit : Permit}
    (stands : Stands nesting outer
      (.permitted permit inner : Descent (.breaker breaker :: rest)) request) :
    Stands nesting (.permit breaker permit :: outer) inner request := by
  refine ⟨stands.nested, stands.untold, stands.phase, stands.ahead, ?_⟩
  have held := stands.held
  rwa [Descent.held, List.append_assoc] at held

end Stands

namespace Reaches

private theorem insideLimiter {limiter : Ref Limiter} {ofRequest : Bool} {reached : Request × World}
    {entered : Entered rest × World}
    (inside : Reaches nesting (.completion limiter :: outer) reached entered) :
    Reaches nesting outer reached (World.insideLimiter limiter ofRequest entered) := by
  obtain ⟨error | call, world⟩ := entered
  · exact inside
  · obtain ⟨same, stands⟩ := inside
    refine ⟨same, stands.nested, stands.untold, stands.phase, stands.ahead, ?_⟩
    rw [Descent.held, List.append_assoc]
    exact stands.held

theorem insideBreaker {breaker : Ref Circuit} {permit : Permit} {reached : Request × World}
    {entered : Entered rest × World} (judges : Judges nesting (.breaker breaker :: rest))
    (inside : Reaches nesting (.permit breaker permit :: outer) reached entered) :
    Reaches nesting outer reached (World.insideBreaker breaker permit entered) := by
  obtain ⟨error | call, world⟩ := entered
  · obtain ⟨failed, left⟩ := inside
    refine ⟨failed, ?_⟩
    rw [left, World.giveBack, judge_eq judges]
    rfl
  · obtain ⟨same, stands⟩ := inside
    refine ⟨same, stands.nested, stands.untold, stands.phase, stands.ahead, ?_⟩
    rw [Descent.held, List.append_assoc]
    exact stands.held

private theorem turnedAway {layer : Layer} {request : Request}
    {error : AdmissionError (Nested rest)}
    {told : AdmissionError String} (nested : request.nesting = nesting)
    (held : Reorders request.held outer) (same : Nested.collapse rest error = told) :
    Reaches nesting outer (world.refuse request told)
      ((.error error : Entered (layer :: rest)), world) := by
  have collapsed : outcomeOf (layer :: rest) (.error error) = .failure told := by
    rw [← same]
    rfl
  refine ⟨by rw [← same]; rfl, ?_⟩
  rw [collapsed, World.refuse, nested, held.giveBack]

private theorem decided {limiter : Ref Limiter} {ofRequest : Bool} {context : Context}
    {request : Request} {decision : Decision} (nested : request.nesting = nesting)
    (held : Reorders request.held outer)
    (inside : ∀ world : World, Reaches nesting (.completion limiter :: outer)
      (world.pass (request.hold (.completion limiter)) (Pipeline.layerStages context rest))
      (world.enter context rest)) :
    let accounted := world.account limiter (context.shown ofRequest) decision
    Reaches nesting outer
      (match decision.toExcept with
        | .ok () => accounted.pass (request.hold (.completion limiter))
            (Pipeline.layerStages context rest)
        | .error error => accounted.refuse request error)
      (world.decided limiter ofRequest context decision (World.enter context rest)) := by
  intro accounted
  cases decision with
  | granted => exact insideLimiter (inside accounted)
  | refused reason retryAfter =>
    exact turnedAway nested held (Nested.collapse_ofRefusal rest reason retryAfter)

/-- A request passes stages as a call enters the layers that they belong to. -/
theorem pass {context : Context} {request : Request} (judges : Judges nesting layers)
    (nested : request.nesting = nesting) (untold : request.response = none)
    (held : Reorders request.held outer) (world : World) :
    Reaches nesting outer (world.pass request (Pipeline.layerStages context layers))
      (world.enter context layers) := by
  -- Whoever is let through holds one thing more, which is outside for the layers that follow.
  induction layers generalizing outer request world with
  | nil =>
    have called : world.pass request [] =
        ({ request with ahead := [], phase := .handling }, world) := by
      simp only [World.pass, World.handle, untold]
    have stands : Stands nesting outer .handling
        { request with ahead := [], phase := .handling } := ⟨nested, untold, rfl, rfl, held⟩
    exact called ▸ ⟨rfl, stands⟩
  | cons layer rest ih =>
    cases layer with
    | limiter limiter ofRequest =>
      have inside (world : World) := ih judges
        (request.hold_nesting (.completion limiter) ▸ nested)
        (request.hold_response (.completion limiter) ▸ untold)
        (held.hold (.completion limiter)) world
      have staged : Pipeline.layerStages context (.limiter limiter ofRequest :: rest) =
          .limiter limiter (context.shown ofRequest) :: Pipeline.layerStages context rest := rfl
      rw [staged, World.pass, World.enter]
      obtain ⟨decision | consultation, left⟩ := world.ask limiter (context.shown ofRequest)
      · exact decided nested held inside
      · exact ⟨rfl, nested, untold, rfl, rfl, held⟩
    | breaker breaker =>
      have inside (permit : Permit) (world : World) := ih judges.2
        (request.hold_nesting (.permit breaker permit) ▸ nested)
        (request.hold_response (.permit breaker permit) ▸ untold)
        (held.hold (.permit breaker permit)) world
      have staged : Pipeline.layerStages context (.breaker breaker :: rest) =
          .breaker breaker :: Pipeline.layerStages context rest := rfl
      rw [staged, World.pass, World.enter]
      obtain ⟨refusal | permit, left⟩ := world.allow breaker
      · exact turnedAway nested held (Nested.collapse_toError rest refusal)
      · exact insideBreaker judges (inside permit left)

/-- A request goes on when it is woken as a call does. -/
theorem wake (judges : Judges nesting layers) (call : Descent layers) {request : Request}
    (stands : Stands nesting outer call request) (world : World) :
    Reaches nesting outer
      (match request.phase with
        | .consulting limiter context consultation =>
          match consultation.outcome? world.now with
          | none => (request, world)
          | some answer => world.passOn request limiter context answer
        | _ => (request, world))
      (world.wake call) := by
  induction call generalizing outer with
  | handling =>
    rw [stands.phase]
    exact ⟨rfl, stands⟩
  | @consulting limiter ofRequest rest context consultation =>
    rw [stands.phase]
    simp only [Descent.phase, World.wake]
    cases consultation.outcome? world.now with
    | none => exact ⟨rfl, stands⟩
    | some answer =>
      have judged : Judges nesting rest := judges
      have inside (world : World) := @pass _ _ (.completion limiter :: outer) context _ judged
        (request.hold_nesting (.completion limiter) ▸ stands.nested)
        (request.hold_response (.completion limiter) ▸ stands.untold)
        (stands.held.hold (.completion limiter)) world
      have ahead : request.ahead = Pipeline.layerStages context rest := stands.ahead
      simp only [World.passOn, ahead]
      exact decided stands.nested stands.held inside
  | admitted inner ih => exact insideLimiter (ih judges stands.insideLimiter)
  | permitted permit inner ih => exact insideBreaker judges (ih judges.2 stands.insideBreaker)

end Reaches

/-- A handler that runs ends, and the call gives back what its layers hold with their verdicts. -/
theorem Descent.finish (judges : Judges nesting layers) (call : Descent layers)
    (handling : call.phase = .handling) (result : Except String Unit) (world : World) :
    ∃ final, World.finish call result world =
        some (final, world.giveBack ((outcomeOf [] result).verdict nesting) call.held) ∧
      outcomeOf layers final = outcomeOf [] result := by
  induction call with
  | handling => exact ⟨result, rfl, rfl⟩
  | consulting context consultation => cases handling
  | admitted inner ih =>
    obtain ⟨final, finished, same⟩ := ih judges handling
    refine ⟨final.mapError AdmissionError.inner, ?_, (outcomeOf_inner _ final).trans same⟩
    rw [World.finish, finished, Descent.held, World.giveBack_append]
    rfl
  | permitted permit inner ih =>
    obtain ⟨final, finished, same⟩ := ih judges.2 handling
    refine ⟨final.mapError AdmissionError.inner, ?_, (outcomeOf_inner _ final).trans same⟩
    rw [World.finish, finished, Descent.held, World.giveBack_append]
    simp only [Option.map_some, judge_eq judges, same]
    rfl

theorem Descent.unfinished {call : Descent layers} (waiting : call.phase ≠ .handling)
    (result : Except String Unit) (world : World) : World.finish call result world = none := by
  induction call with
  | handling => exact absurd rfl waiting
  | consulting context consultation => rfl
  | admitted inner ih => rw [World.finish, ih waiting, Option.map_none]
  | permitted permit inner ih => rw [World.finish, ih waiting, Option.map_none]

theorem Descent.dropped (call : Descent layers) (world : World) :
    World.dropCall call world = world.giveBack (fun _ => .none) call.held := by
  induction call with
  | handling => rfl
  | consulting context consultation => rfl
  | admitted inner ih =>
    rw [World.dropCall, ih, Descent.held, World.giveBack_append]
    rfl
  | permitted permit inner ih =>
    rw [World.dropCall, ih, Descent.held, World.giveBack_append]
    rfl

end AdmissionControl
