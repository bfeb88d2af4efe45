import AdmissionControl.Proofs.Store.SlidingWindow
import AdmissionControl.World.Requests

namespace AdmissionControl

/-- The sliding window that a limiter is, with its store and a clock of its own if it has one. -/
def Limiter.window? : Limiter → Option (SlidingWindow × Ref Store × Option (Ref Clock))
  | .slidingWindow limiter store clock => some (limiter, store, clock)
  | _ => none

private theorem Limiter.complete_window? (limiter : Limiter) :
    limiter.complete.window? = limiter.window? := by
  cases limiter <;> rfl

namespace World

/-- A store is left alone, all sliding windows are as they were, and no time has passed. -/
structure Spares (ref : Ref Store) (world after : World) : Prop where
  store : after.stores.get ref = world.stores.get ref
  windows : ∀ limiter, (after.limiters.get limiter).window? = (world.limiters.get limiter).window?
  clocks : after.clocks = world.clocks

variable {ref : Ref Store} {world middle after : World}

namespace Spares

theorem refl (ref : Ref Store) (world : World) : world.Spares ref world := ⟨rfl, fun _ => rfl, rfl⟩

theorem trans (first : world.Spares ref middle) (second : middle.Spares ref after) :
    world.Spares ref after :=
  ⟨second.store.trans first.store,
    fun limiter => (second.windows limiter).trans (first.windows limiter),
    second.clocks.trans first.clocks⟩

theorem of_keeps (kept : world.Keeps after) : world.Spares ref after :=
  ⟨by rw [kept.stores], fun _ => by rw [kept.limiters], kept.clocks⟩

private theorem setLimiter {limiter : Ref Limiter} {changed : Limiter}
    (same : changed.window? = (world.limiters.get limiter).window?) :
    world.Spares ref (world.setLimiter limiter changed) := by
  refine ⟨rfl, ?_, rfl⟩
  intro other
  simp only [World.setLimiter, Table.get_set]
  split
  · next found => rw [same, found]
  · rfl

theorem account (world : World) (limiter : Ref Limiter) (context : Context) (decision : Decision) :
    world.Spares ref (world.account limiter context decision) := by
  cases decision <;> exact ⟨rfl, fun _ => rfl, rfl⟩

theorem complete (world : World) (limiter : Ref Limiter) :
    world.Spares ref (world.complete limiter) := by
  refine ⟨rfl, ?_, rfl⟩
  intro other
  simp only [World.complete, Table.get_modify]
  split
  · next found => rw [Limiter.complete_window?, found]
  · rfl

theorem endures : Endures (Spares ref) where
  refl := refl ref
  trans := trans
  complete := complete
  resolve world circuit permit verdict :=
    of_keeps ((keptWithin world.steps).resolve world circuit permit verdict)

end Spares

theorem handle_called (world : World) (request : Request) :
    (world.handle request).1.called = true := by
  simp only [World.handle]
  split
  · rfl
  · split <;> rfl

/-- One stage: what a request takes along from it, if it is let through. -/
def face (world : World) : Stage → Option Held × World
  | .limiter ref context =>
    match world.ask ref context with
    | (.waiting _, world) => (none, world)
    | (.decided decision, world) =>
      (if decision.isGranted then some (.completion ref) else none,
        world.account ref context decision)
  | .breaker ref =>
    match world.allow ref with
    | (.ok permit, world) => (some (.permit ref permit), world)
    | (.error _, world) => (none, world)

/-- A request that is let through goes on to the stages that follow. -/
theorem pass_through {request : Request} {stage : Stage} {rest : List Stage} {held : Held}
    (through : world.face stage = (some held, after)) :
    world.pass request (stage :: rest) = after.pass (request.hold held) rest := by
  cases stage with
  | limiter limiter context =>
    cases asked : world.ask limiter context with
    | mk answer left =>
    simp only [face, asked] at through
    simp only [pass, asked]
    cases answer with
    | waiting consultation => cases through
    | decided decision =>
      cases decision with
      | granted =>
        cases through
        rfl
      | refused reason retryAfter => cases through
  | breaker circuit =>
    cases asked : world.allow circuit with
    | mk answer left =>
    simp only [face, asked] at through
    simp only [pass, asked]
    cases answer with
    | ok permit =>
      cases through
      rfl
    | error refusal => cases through

/-- A request that is stopped never calls its handler, and gives back what it holds. -/
theorem pass_stopped {request : Request} {stage : Stage} {rest : List Stage}
    (stopped : world.face stage = (none, after)) :
    (world.pass request (stage :: rest)).1.called = false ∧
      after.Spares ref (world.pass request (stage :: rest)).2 := by
  cases stage with
  | limiter limiter context =>
    cases asked : world.ask limiter context with
    | mk answer left =>
    simp only [face, asked] at stopped
    simp only [pass, asked]
    cases answer with
    | waiting consultation =>
      cases stopped
      exact ⟨rfl, .refl ref _⟩
    | decided decision =>
      cases decision with
      | granted => cases stopped
      | refused reason retryAfter =>
        cases stopped
        exact ⟨rfl, Spares.endures.refuse _ _ _⟩
  | breaker circuit =>
    cases asked : world.allow circuit with
    | mk answer left =>
    simp only [face, asked] at stopped
    simp only [pass, asked]
    cases answer with
    | ok permit => cases stopped
    | error refusal =>
      cases stopped
      exact ⟨rfl, Spares.endures.refuse _ _ _⟩

theorem ask_spares {limiter : Ref Limiter} (elsewhere : (world.limiters.get limiter).window? = none)
    (context : Context) : world.Spares ref (world.ask limiter context).2 := by
  simp only [ask]
  split
  · exact .refl ref world
  · cases kind : world.limiters.get limiter with
    | concurrency concurrency => exact .setLimiter (by rw [kind]; rfl)
    | fixedWindow fixed clock =>
      have read := @Spares.of_keeps ref _ _ ((keptWithin world.steps).read world clock)
      exact read.trans (.setLimiter ((read.windows limiter).trans elsewhere).symm)
    | slidingWindow sliding store clock => rw [kind] at elsewhere; cases elsewhere
    | tokenBucket bucket => exact .setLimiter (by rw [kind]; rfl)
    | leakyBucket bucket => exact .setLimiter (by rw [kind]; rfl)

variable {clock : Ref Clock} {store : MemoryStore} {limiter : Ref Limiter} {window : SlidingWindow}

private theorem ask_window (holds : world.stores.get ref = .memory store clock) (context : Context)
    (listed : (world.limiters.get limiter).window? = some (window, ref, none))
    (present : context.abandoned? world.tokens world.now = none) :
    ∃ after, world.ask limiter context =
        (.decided (window.weigh (.ok (store.recordIfBelow (window.request context.windowKey none)
          (world.clocks.get clock).now).1)), after) ∧
      after.stores.get ref = .memory (store.recordIfBelow (window.request context.windowKey none)
        (world.clocks.get clock).now).2.1 clock ∧
      (∀ limiter, (after.limiters.get limiter).window? = (world.limiters.get limiter).window?) ∧
      after.clocks = world.clocks := by
  have sliding : world.limiters.get limiter = .slidingWindow window ref none := by
    cases kind : world.limiters.get limiter <;> simp_all [Limiter.window?]
  obtain ⟨after, consulted, stored, limiters, clocks, now⟩ :=
    World.consult_memory holds (window.request context.windowKey none)
  refine ⟨after, ?_, stored, fun _ => by rw [limiters], clocks⟩
  have ready : (Consultation.start (.ok (store.recordIfBelow
      (window.request context.windowKey none) (world.clocks.get clock).now).1) 0 after.now
      window.timeout).outcome? after.now = some (.ok (store.recordIfBelow
        (window.request context.windowKey none) (world.clocks.get clock).now).1) := by
    simp [Consultation.start, Consultation.outcome?]
  have unstamped : (window.request context.windowKey none).now = none := rfl
  simp only [unstamped, Option.getD_none] at consulted
  simp only [ask, present, sliding, beginConsultation, consulted, ready, weigh]

theorem face_breaker (world : World) (circuit : Ref Circuit) :
    world.Spares ref (world.face (.breaker circuit)).2 := by
  have kept := (keptWithin world.steps).allow world circuit
  simp only [face, allow]
  split <;> next asked => exact .of_keeps (by rw [asked] at kept; exact kept)

theorem face_elsewhere {context : Context}
    (elsewhere : (world.limiters.get limiter).window? = none) :
    world.Spares ref (world.face (.limiter limiter context)).2 := by
  have asked := @ask_spares ref _ _ elsewhere context
  simp only [face]
  split <;> next same =>
    rw [same] at asked
    first | exact asked | exact asked.trans (.account _ _ _ _)

theorem face_present (holds : world.stores.get ref = .memory store clock) {context : Context}
    (listed : (world.limiters.get limiter).window? = some (window, ref, none))
    (present : context.abandoned? world.tokens world.now = none) :
    let recorded := store.recordIfBelow (window.request context.windowKey none)
      (world.clocks.get clock).now
    let faced := world.face (.limiter limiter context)
    faced.1.isSome = recorded.1 ∧ faced.2.stores.get ref = .memory recorded.2.1 clock ∧
      (∀ limiter, (faced.2.limiters.get limiter).window? = (world.limiters.get limiter).window?) ∧
      faced.2.clocks = world.clocks := by
  intro recorded faced
  obtain ⟨after, asked, stored, windows, clocks⟩ := ask_window holds context listed present
  have noted : after.Spares ref _ := .account after limiter context (window.weigh (.ok recorded.1))
  have same : faced = (if (window.weigh (.ok recorded.1)).isGranted then some (.completion limiter)
      else none, after.account limiter context (window.weigh (.ok recorded.1))) := by
    simp only [faced, face, asked]
    rfl
  rw [same]
  refine ⟨?_, noted.store.trans stored,
    fun limiter => (noted.windows limiter).trans (windows limiter), noted.clocks.trans clocks⟩
  cases recorded.1 <;> rfl

theorem face_window (holds : world.stores.get ref = .memory store clock) (context : Context)
    (listed : (world.limiters.get limiter).window? = some (window, ref, none)) :
    let recorded := store.recordIfBelow (window.request context.windowKey none)
      (world.clocks.get clock).now
    let faced := world.face (.limiter limiter context)
    faced.1 = none ∧ world.Spares ref faced.2 ∨
      faced.1.isSome = recorded.1 ∧ faced.2.stores.get ref = .memory recorded.2.1 clock ∧
        (∀ limiter, (faced.2.limiters.get limiter).window? = (world.limiters.get limiter).window?) ∧
        faced.2.clocks = world.clocks := by
  intro recorded faced
  cases present : context.abandoned? world.tokens world.now with
  | some reason =>
    left
    simp only [faced, face, ask, present]
    exact ⟨rfl, .account _ _ _ _⟩
  | none => exact .inr (face_present holds listed present)

end World

end AdmissionControl
