import AdmissionControl.Proofs.Pipeline.Incidents
import AdmissionControl.Proofs.Pipeline.Still

namespace AdmissionControl

/-- The layers of a service that does as a stack: each limiter sees the context of the request, and
the breaker, if there is one, is the innermost. -/
def Stack.layers (stack : Stack) : List Layer :=
  stack.limiters.map (Layer.limiter · true) ++ stack.breaker.toList.map Layer.breaker

variable {nesting : Nesting} {layers : List Layer} {base place : Nat} {world : World}
  {tower : Tower layers}

def Shows (nesting : Nesting) (request : Request) : Progress layers → Prop
  | .underway call => Stands nesting [] call request
  | progress => request.phase = progress.phase

namespace Shows

variable {request : Request} {progress : Progress layers}

private theorem phase (shown : Shows nesting request progress) :
    request.phase = progress.phase := by
  cases progress with
  | underway call => exact Stands.phase shown
  | failed error => exact shown
  | answered result => exact shown
  | dropped => exact shown

private theorem called (shown : Shows nesting request progress) :
    request.called = progress.called := by
  rw [Request.called, shown.phase]
  cases progress with
  | underway call =>
    rcases call.waits with handling | ⟨limiter, context, consultation, waiting⟩
    · simp only [Progress.phase, Progress.called, handling]
    · simp only [Progress.phase, Progress.called, waiting]
  | failed error => rfl
  | answered result => rfl
  | dropped => rfl

private theorem outcome? (shown : Shows nesting request progress) :
    request.outcome? = progress.outcome? := by
  rw [Request.outcome?, shown.phase]
  cases progress with
  | underway call =>
    rcases call.waits with handling | ⟨limiter, context, consultation, waiting⟩
    · simp only [Progress.phase, Progress.outcome?, handling]
    · simp only [Progress.phase, Progress.outcome?, waiting]
  | failed error => rfl
  | answered result => rfl
  | dropped => rfl

private theorem of_reaches {reached : Request × World} {entered : Entered layers × World}
    (reaches : Reaches nesting [] reached entered) :
    reached.2 = entered.2 ∧ Shows nesting reached.1 (.ofEntered entered.1) := by
  obtain ⟨error | call, world⟩ := entered
  · exact ⟨reaches.2, reaches.1⟩
  · exact reaches

end Shows

/-- The requests of a world, from a number on, show what has become of the calls on a tower. -/
structure Follows (nesting : Nesting) (base : Nat) (world : World) (tower : Tower layers) :
    Prop where
  same : world.Matches tower.world
  size : world.requests.size = base + tower.calls.length
  shows : ∀ place progress, tower.calls[place]? = some progress →
    Shows nesting (world.requests.get ⟨base + place⟩) progress

namespace Follows

private theorem update (follows : Follows nesting base world tower) {after left : World}
    {progress : Progress layers} (same : after.Matches left)
    (size : after.requests.size = world.requests.size)
    (others : ∀ ref, (⟨base + place⟩ : Ref Request) ≠ ref →
      after.requests.get ref = world.requests.get ref)
    (shown : Shows nesting (after.requests.get ⟨base + place⟩) progress) :
    Follows nesting base after { world := left, calls := tower.calls.set place progress } where
  same := same
  size := by rw [size, follows.size, List.length_set]
  shows other progress found := by
    rw [List.getElem?_set] at found
    by_cases here : place = other
    · subst here
      rw [if_pos rfl] at found
      split at found
      · obtain rfl := Option.some.inj found
        exact shown
      · cases found
    · have apart : (⟨base + place⟩ : Ref Request) ≠ ⟨base + other⟩ :=
        fun equal => here (Nat.add_left_cancel (congrArg Ref.index equal))
      rw [if_neg here] at found
      rw [others _ apart]
      exact follows.shows other progress found

private theorem replace (follows : Follows nesting base world tower) {after left : World}
    {request : Request} {progress : Progress layers} (inside : place < tower.calls.length)
    (same : after.Matches left)
    (placed : after.requests = world.requests.set ⟨base + place⟩ request)
    (shown : Shows nesting request progress) :
    Follows nesting base after { world := left, calls := tower.calls.set place progress } := by
  have there : (⟨base + place⟩ : Ref Request).index < world.requests.size := by
    rw [follows.size]
    exact Nat.add_lt_add_left inside base
  apply follows.update same
  case size => rw [placed, Table.size_set_of_lt there]
  case others =>
    intro ref apart
    rw [placed, Table.get_set, if_neg apart]
  case shown =>
    rw [placed, Table.get_set_self]
    exact shown

private theorem missing (follows : Follows nesting base world tower)
    (none : tower.calls[place]? = none) : world.requests.get ⟨base + place⟩ = default := by
  apply Table.get_of_size_le
  rw [follows.size]
  exact Nat.add_le_add_left (List.getElem?_eq_none_iff.mp none) base

private theorem waiting (follows : Follows nesting base world tower) (place : Nat) :
    (∃ call, tower.calls[place]? = some (.underway call) ∧ place < tower.calls.length ∧
        Stands nesting [] call (world.requests.get ⟨base + place⟩)) ∨
      (∀ call, tower.calls[place]? ≠ some (.underway call)) ∧
        (world.requests.get ⟨base + place⟩).waits = false := by
  cases found : tower.calls[place]? with
  | none =>
    rw [follows.missing found]
    exact .inr ⟨by simp, rfl⟩
  | some progress =>
    have shown := follows.shows place progress found
    have phase := shown.phase
    cases progress with
    | underway call => exact .inl ⟨call, rfl, (List.getElem?_eq_some_iff.mp found).1, shown⟩
    | failed error => exact .inr ⟨by simp, by rw [Request.waits, phase]; rfl⟩
    | answered result => exact .inr ⟨by simp, by rw [Request.waits, phase]; rfl⟩
    | dropped => exact .inr ⟨by simp, by rw [Request.waits, phase]; rfl⟩

end Follows

namespace World

theorem place_matches (world : World) (ref : Ref Request) (request : Request) :
    (world.place ref request).Matches world := by
  unfold place
  cases request.wake? <;> rfl

theorem start_fresh {world : World} {ref : Ref Request} {request : Request}
    (found : world.requests.get ref = request) (fresh : request.phase = .fresh) :
    let passed := world.pass { request with polled := true } request.ahead
    world.start ref = passed.2.place ref passed.1 := by
  simp only [start, found, fresh]

end World

/-- A pipeline whose stages are those of some layers, and whose verdicts are theirs. -/
structure Fits (pipeline : Pipeline) (layers : List Layer) : Prop where
  ready : pipeline.unready? = none
  stages : ∀ context, pipeline.stages context = Pipeline.layerStages context layers
  judges : Judges pipeline.nesting layers

/-- A request that is sent is noted after all others, and has come as far as a call. -/
structure Sent (nesting : Nesting) (requests : Table Request) (after : World)
    (entered : Entered layers × World) : Prop where
  same : after.Matches entered.2
  last : ∃ row, after.requests = (requests.add row).2 ∧
    Shows nesting row (.ofEntered entered.1)

private theorem Sent.start {entered : Entered layers × World} {first : Request}
    (fresh : first.phase = .fresh)
    (reaches : ∀ noted : World, noted.Matches world →
      Reaches nesting [] (noted.pass { first with polled := true } first.ahead)
        (World.noted noted.requests noted.alarms entered)) :
    Sent nesting world.requests
      ((world.note (world.requests.add first).2 world.alarms).start ⟨world.requests.size⟩)
      entered := by
  let ready := world.note (world.requests.add first).2 world.alarms
  have found : ready.requests.get ⟨world.requests.size⟩ = first :=
    Table.get_add_self world.requests first
  obtain ⟨same, shown⟩ := Shows.of_reaches (reaches ready (World.Matches.of_note rfl))
  have still := World.Still.accompanies.pass ready { first with polled := true } first.ahead
  rw [World.start_fresh found fresh]
  constructor
  case same =>
    refine (World.place_matches _ _ _).trans ?_
    rw [same]
    rfl
  case last =>
    refine ⟨_, ?_, shown⟩
    rw [World.place_requests, still.requests]
    exact Table.set_add world.requests first _

namespace Fits

variable {pipeline : Pipeline} {context : Context} {breaker : Ref Circuit} {rest : List Layer}

/-- Being made ready takes a request past a breaker that is the outermost layer of a service. -/
theorem prepare_permitted (fits : Fits pipeline (.breaker breaker :: rest))
    (layered : pipeline.nesting = .layered) {permit : Permit} {left : World}
    (asked : world.allow breaker = (.ok permit, left)) :
    world.prepare pipeline context =
      ({ nesting := .layered
         ahead := Pipeline.layerStages context rest
         held := [.permit breaker permit] }, left) := by
  have staged : pipeline.stages context = .breaker breaker :: Pipeline.layerStages context rest :=
    fits.stages context
  simp only [World.prepare, fits.ready, staged, layered, asked]

private theorem prepare_refused (fits : Fits pipeline (.breaker breaker :: rest))
    (layered : pipeline.nesting = .layered) {refusal : CircuitOpen} {left : World}
    (asked : world.allow breaker = (.error refusal, left)) :
    world.prepare pipeline context =
      ({ nesting := .layered, phase := .failed refusal.toError }, left) := by
  have staged : pipeline.stages context = .breaker breaker :: Pipeline.layerStages context rest :=
    fits.stages context
  simp only [World.prepare, fits.ready, staged, layered, asked]

private theorem prepare_else (fits : Fits pipeline layers)
    (otherwise : pipeline.nesting = .closure ∨ ∀ breaker rest, layers ≠ .breaker breaker :: rest) :
    world.prepare pipeline context =
      ({ nesting := pipeline.nesting, ahead := Pipeline.layerStages context layers }, world) := by
  simp only [World.prepare, fits.ready, fits.stages]
  cases layers with
  | nil => cases pipeline.nesting <;> rfl
  | cons layer rest =>
    cases layer with
    | limiter limiter ofRequest => cases pipeline.nesting <;> rfl
    | breaker breaker =>
      rcases otherwise with closure | other
      · simp only [closure]
      · exact absurd rfl (other breaker rest)

private theorem send_breaker (fits : Fits pipeline (.breaker breaker :: rest))
    (layered : pipeline.nesting = .layered) (context : Context) (world : World) :
    let (ref, ready) := world.submit pipeline context
    Sent .layered world.requests (ready.start ref)
      (world.enter context (.breaker breaker :: rest)) := by
  have judges := fits.judges
  rw [layered] at judges
  have still := World.Still.allow world breaker
  rcases asked : world.allow breaker with ⟨refusal | permit, left⟩ <;> rw [asked] at still
  · have prepared := @prepare_refused world _ context _ _ fits layered _ _ asked
    let first : Request := { nesting := .layered, phase := .failed refusal.toError }
    let ready := left.note (left.requests.add first).2 left.alarms
    have found : ready.requests.get ⟨left.requests.size⟩ = first :=
      Table.get_add_self left.requests first
    have started : ready.start ⟨left.requests.size⟩ =
        ready.setRequest ⟨left.requests.size⟩ { first with polled := true } := by
      simp only [World.start, found, first]
    have collapsed := congrArg Phase.failed (Nested.collapse_toError rest refusal).symm
    simp only [World.submit, World.enter, prepared, asked, ← still.requests]
    refine ⟨?_, { first with polled := true }, ?_, collapsed⟩
    · exact (congrArg (World.note {} []) started).trans rfl
    · exact (congrArg World.requests started).trans (Table.set_add left.requests first _)
  · have prepared := @prepare_permitted world _ context _ _ fits layered _ _ asked
    let first : Request :=
      { nesting := .layered
        ahead := Pipeline.layerStages context rest
        held := [.permit breaker permit] }
    have reaches (noted : World) (same : noted.Matches left) :
        Reaches .layered [] (noted.pass { first with polled := true } first.ahead)
          (World.noted noted.requests noted.alarms
            (World.insideBreaker breaker permit (left.enter context rest))) := by
      rw [← World.insideBreaker_note, ← same.enter]
      exact Reaches.insideBreaker judges
        (Reaches.pass judges.2 rfl rfl (.refl [.permit breaker permit]) noted)
    simp only [World.submit, World.enter, prepared, asked, ← still.requests]
    exact Sent.start rfl reaches

private theorem send (fits : Fits pipeline layers) (context : Context) (world : World) :
    let (ref, ready) := world.submit pipeline context
    Sent pipeline.nesting world.requests (ready.start ref) (world.enter context layers) := by
  by_cases outermost : pipeline.nesting = .layered ∧
      ∃ breaker rest, layers = .breaker breaker :: rest
  · obtain ⟨layered, breaker, rest, rfl⟩ := outermost
    rw [layered]
    exact fits.send_breaker layered context world
  · have otherwise : pipeline.nesting = .closure ∨
        ∀ breaker rest, layers ≠ .breaker breaker :: rest := by
      cases nesting : pipeline.nesting with
      | closure => exact .inl rfl
      | layered =>
        exact .inr fun breaker rest same => outermost ⟨nesting, breaker, rest, same⟩
    have prepared := @prepare_else _ world _ context fits otherwise
    let first : Request :=
      { nesting := pipeline.nesting, ahead := Pipeline.layerStages context layers }
    have reaches (noted : World) (same : noted.Matches world) :
        Reaches pipeline.nesting [] (noted.pass { first with polled := true } first.ahead)
          (World.noted noted.requests noted.alarms (world.enter context layers)) := by
      rw [← same.enter]
      exact Reaches.pass fits.judges rfl rfl (.refl []) noted
    simp only [World.submit, prepared]
    exact Sent.start rfl reaches

end Fits

namespace Follows

variable {pipeline : Pipeline}

private theorem send (fits : Fits pipeline layers)
    (follows : Follows pipeline.nesting base world tower) (context : Context) :
    Follows pipeline.nesting base (world.step pipeline base (.send context))
      (tower.step (.send context)) := by
  obtain ⟨same, row, added, shown⟩ := fits.send context world
  rw [follows.same.enter] at same shown
  have size := follows.size
  have rows : (world.step pipeline base (.send context)).requests = (world.requests.add row).2 :=
    added
  constructor
  case same => exact same
  case size =>
    rw [rows, Table.size_add, size, Tower.step, List.length_append]
    rfl
  case shows =>
    intro place progress found
    rw [rows]
    simp only [Tower.step] at found
    by_cases earlier : place < tower.calls.length
    · rw [List.getElem?_append_left earlier] at found
      rw [Table.get_add_of_lt _ _ (by simp only; omega)]
      exact follows.shows place progress found
    · have last : place = tower.calls.length := by
        have bound := (List.getElem?_eq_some_iff.mp found).1
        rw [List.length_append, List.length_singleton] at bound
        omega
      subst last
      rw [List.getElem?_concat_length] at found
      obtain rfl := Option.some.inj found
      have noted : (world.requests.add row).2.get ⟨base + tower.calls.length⟩ = row := by
        rw [← size]
        exact Table.get_add_self world.requests row
      rw [noted]
      exact shown

private theorem wake (fits : Fits pipeline layers)
    (follows : Follows pipeline.nesting base world tower) (place : Nat) :
    Follows pipeline.nesting base (world.step pipeline base (.wake place))
      (tower.step (.wake place)) := by
  rcases follows.waiting place with ⟨call, found, inside, stands⟩ | ⟨none, idle⟩
  · have reaches := Reaches.wake fits.judges call stands world
    rw [follows.same.wake] at reaches
    have shown := Shows.of_reaches reaches
    simp only [World.step, World.resume, Tower.step, found]
    rcases call.waits with handling | ⟨limiter, context, consultation, waiting⟩
    -- Waking does nothing to a call whose handler runs.
    · rw [← stands.phase] at handling
      simp only [handling] at shown ⊢
      exact follows.update (World.Matches.of_note shown.1) rfl (fun _ _ => rfl) shown.2
    · rw [← stands.phase] at waiting
      simp only [waiting] at shown ⊢
      cases reached : consultation.outcome? world.now with
      | none =>
        simp only [reached] at shown ⊢
        exact follows.update (World.Matches.of_note shown.1) rfl (fun _ _ => rfl) shown.2
      | some answer =>
        simp only [reached] at shown ⊢
        have still := World.Still.accompanies.passOn world (world.requests.get ⟨base + place⟩)
          limiter context answer
        apply follows.replace inside
        case same => exact (World.place_matches _ _ _).trans (World.Matches.of_note shown.1)
        case placed => rw [World.place_requests, still.requests]
        case shown => exact shown.2
  · rw [(Tower.step_idle none).1, (World.step_idle pipeline idle).1]
    exact follows

private theorem finish (fits : Fits pipeline layers)
    (follows : Follows pipeline.nesting base world tower)
    (place : Nat) (result : Except String Unit) :
    Follows pipeline.nesting base (world.step pipeline base (.finish place result))
      (tower.step (.finish place result)) := by
  rcases follows.waiting place with ⟨call, found, inside, stands⟩ | ⟨none, idle⟩
  · have phase := stands.phase
    rcases call.waits with handling | ⟨limiter, context, consultation, waiting⟩
    · obtain ⟨final, finished, same⟩ := call.finish fits.judges handling result tower.world
      rw [handling] at phase
      have held := stands.held
      rw [List.append_nil] at held
      have answered := world.answer_handling (outcomeOf [] result) phase
      rw [stands.nested, held.giveBack] at answered
      have still := World.Still.accompanies.giveBack
        ((outcomeOf [] result).verdict pipeline.nesting) world call.held
      simp only [World.step, Tower.step, found, phase, finished, answered]
      apply follows.replace inside
      case same => exact follows.same.giveBack _ _
      case placed => exact congrArg (Table.set · _ _) still.requests
      case shown => exact congrArg Phase.answered same.symm
    · have elsewhere : call.phase ≠ .handling := by simp [waiting]
      have unfinished := Descent.unfinished elsewhere result tower.world
      rw [waiting] at phase
      simp only [World.step, Tower.step, found, phase, unfinished]
      exact follows
  · rw [(Tower.step_idle none).2.1, (World.step_idle pipeline idle).2.1]
    exact follows

private theorem drop (follows : Follows nesting base world tower) (place : Nat) :
    Follows nesting base (world.step pipeline base (.drop place))
      (tower.step (.drop place)) := by
  rcases follows.waiting place with ⟨call, found, inside, stands⟩ | ⟨none, idle⟩
  · have waits : (world.requests.get ⟨base + place⟩).waits = true := by
      rcases call.waits with handling | ⟨limiter, context, consultation, waiting⟩
      · simp only [Request.waits, stands.phase, handling]
      · simp only [Request.waits, stands.phase, waiting]
    have held := stands.held
    rw [List.append_nil] at held
    let dropped : Request :=
      { world.requests.get ⟨base + place⟩ with ahead := [], held := [], phase := .dropped }
    have left : world.drop ⟨base + place⟩ =
        (world.giveBack (fun _ => .none) call.held).note
          (world.requests.set ⟨base + place⟩ dropped) world.alarms := by
      rw [World.drop, held.giveBack, ← World.giveBack_note]
      rfl
    simp only [World.step, Tower.step, found, waits, if_true, left, call.dropped]
    exact follows.replace inside (follows.same.giveBack _ _) rfl rfl
  · rw [(Tower.step_idle none).2.2, (World.step_idle pipeline idle).2.2]
    exact follows

private theorem meanwhile (follows : Follows nesting base world tower) (event : Meanwhile) :
    Follows nesting base (world.step pipeline base (.meanwhile event))
      (tower.step (.meanwhile event)) := by
  have spared : (world.step pipeline base (.meanwhile event)).requests = world.requests :=
    event.spares world
  constructor
  case same => exact event.blind follows.same
  case size => rw [spared, follows.size]; rfl
  case shows =>
    intro place progress found
    rw [spared]
    exact follows.shows place progress found

theorem step (fits : Fits pipeline layers) (follows : Follows pipeline.nesting base world tower)
    (incident : Incident) :
    Follows pipeline.nesting base (world.step pipeline base incident) (tower.step incident) := by
  cases incident with
  | send context => exact follows.send fits context
  | wake place => exact follows.wake fits place
  | finish place result => exact follows.finish fits place result
  | drop place => exact follows.drop place
  | meanwhile event => exact follows.meanwhile event

theorem run (fits : Fits pipeline layers) (follows : Follows pipeline.nesting base world tower)
    (incidents : List Incident) :
    Follows pipeline.nesting base (world.run pipeline base incidents) (tower.run incidents) := by
  induction incidents generalizing world tower with
  | nil => exact follows
  | cons incident rest ih => exact ih (follows.step fits incident)

private theorem start (nesting : Nesting) (world : World) :
    Follows nesting world.requests.size world ({ world } : Tower layers) where
  same := rfl
  size := rfl
  shows _ _ found := nomatch found

private theorem seen (follows : Follows nesting base world tower) (place : Nat) :
    let row := world.requests.get ⟨base + place⟩
    row.called = (tower.calls[place]?.map Progress.called).getD false ∧
      row.outcome? = tower.calls[place]?.bind Progress.outcome? := by
  cases found : tower.calls[place]? with
  | none =>
    rw [follows.missing found]
    exact ⟨rfl, rfl⟩
  | some progress =>
    have shown := follows.shows place progress found
    exact ⟨shown.called, shown.outcome?⟩

end Follows

namespace Fits

private theorem judges_layered (layers : List Layer) : Judges .layered layers := by
  induction layers with
  | nil => trivial
  | cons layer rest ih =>
    cases layer with
    | limiter limiter ofRequest => exact ih
    | breaker breaker => exact ⟨.inl rfl, ih⟩

private theorem service (layers : List Layer) : Fits (.service { layers }) layers :=
  ⟨rfl, fun _ => rfl, judges_layered layers⟩

private theorem judges_stack (nesting : Nesting) (limiters : List (Ref Limiter))
    (breaker : Option (Ref Circuit)) : Judges nesting (Stack.layers { limiters, breaker }) := by
  induction limiters with
  | nil =>
    cases breaker with
    | none => trivial
    | some breaker => exact ⟨.inr rfl, trivial⟩
  | cons limiter rest ih => exact ih

private theorem stack (stack : Stack) : Fits (.stack stack) stack.layers where
  ready := rfl
  stages context := by
    have limiters : stack.limiters.map (Stage.limiter · context) =
        Pipeline.layerStages context (stack.limiters.map (Layer.limiter · true)) := by
      rw [Pipeline.layerStages, List.map_map]
      rfl
    have breakers : stack.breaker.toList.map Stage.breaker =
        Pipeline.layerStages context (stack.breaker.toList.map Layer.breaker) := by
      rw [Pipeline.layerStages, List.map_map]
      rfl
    rw [Pipeline.stages, Pipeline.stackStages, limiters, breakers, Stack.layers,
      Pipeline.layerStages, Pipeline.layerStages, Pipeline.layerStages, List.map_append]
  judges := judges_stack _ _ _

end Fits

namespace World

/-- Limiters and a breaker agree as layers of a service and as a stack, whatever happens to the
requests that are sent through them. The service is taken both as it is built, one layer inside the
other with errors as deep, and as a pipeline. -/
theorem stack_agrees (world : World) (stack : Stack) (incidents : List Incident) :
    let base := world.requests.size
    let tower := Tower.run ({ world } : Tower stack.layers) incidents
    let service := world.run (.service { layers := stack.layers }) base incidents
    let stacked := world.run (.stack stack) base incidents
    (service.Matches tower.world ∧ stacked.Matches tower.world) ∧
      ∀ place,
        let call := tower.calls[place]?
        let layered := service.requests.get ⟨base + place⟩
        let direct := stacked.requests.get ⟨base + place⟩
        (layered.called = (call.map Progress.called).getD false ∧
            layered.outcome? = call.bind Progress.outcome?) ∧
          (direct.called = (call.map Progress.called).getD false ∧
            direct.outcome? = call.bind Progress.outcome?) := by
  intro base tower service stacked
  have layered : Follows .layered base service tower :=
    (Follows.start _ world).run (Fits.service stack.layers) incidents
  have direct : Follows .closure base stacked tower :=
    (Follows.start _ world).run (Fits.stack stack) incidents
  exact ⟨⟨layered.same, direct.same⟩, fun place => ⟨layered.seen place, direct.seen place⟩⟩

/-- A limiter with one slot before a breaker. The second request comes while the handler of the
first runs, and the third after it has failed. -/
example :
    let stack : Stack := { limiters := [⟨0⟩], breaker := some ⟨0⟩ }
    let world : World := { limiters := ⟨#[.concurrency { threshold := 1 }]⟩ }
    let tower := Tower.run ({ world } : Tower stack.layers)
      [.send {}, .send {}, .meanwhile (.elapse 5), .finish 0 (.error "down"), .send {}]
    tower.calls.map Progress.outcome? =
      [some (.failure (.inner "down")), some (.failure (.ofRefusal .concurrencyLimit none)),
        none] := rfl

end World

end AdmissionControl
