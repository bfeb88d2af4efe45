import AdmissionControl.Proofs.Breaker.Undisturbed
import AdmissionControl.Proofs.Pipeline.Slots
/-!
What requests meet with on their way through a pipeline, told in the order in which it happens: a
limiter is consulted, it decides, a breaker refuses, a handler is called. The counters and the log
are kept in other places, and whatever a request does to them is what its encounters say.
-/

namespace AdmissionControl

/-- Something that a request meets with. A decision comes with the key of the request. -/
inductive Encounter where
  | consulted (kind : Kind)
  | decided (kind : Kind) (key : Option String) (decision : Decision)
  | shut
  | called
  deriving DecidableEq, Repr

namespace Encounter

def decides (kind : Kind) : Encounter → Bool
  | decided other _ _ => other = kind
  | _ => false

def grants (kind : Kind) : Encounter → Bool
  | decided other _ .granted => other = kind
  | _ => false

def rejects (kind : Kind) : Encounter → Bool
  | decided other _ (.refused reason _) =>
    other = kind ∧ reason ≠ .cancelled ∧ reason ≠ .deadlineExceeded
  | _ => false

def abandons (kind : Kind) : Encounter → Bool
  | decided other _ (.refused reason _) =>
    other = kind ∧ (reason = .cancelled ∨ reason = .deadlineExceeded)
  | _ => false

/-- The request goes no further: it is refused, or has reached its handler. -/
def ends : Encounter → Bool
  | consulted _ | decided _ _ .granted => false
  | decided _ _ (.refused ..) | shut | called => true

def rejection? : Encounter → Option Event
  | decided kind key (.refused reason retryAfter) =>
    some (.requestRejected kind reason key retryAfter)
  | _ => none

end Encounter

def Event.isRejection : Event → Bool
  | requestRejected .. => true
  | _ => false

namespace World

def encounters (world : World) : List Stage → List Encounter
  | [] => [.called]
  | .limiter ref context :: rest =>
    let kind := (world.limiters.get ref).kind
    match world.ask ref context with
    | (.waiting _, _) => [.consulted kind]
    | (.decided decision, world) =>
      .consulted kind :: .decided kind context.key decision ::
        if decision.isGranted then (world.account ref context decision).encounters rest else []
  | .breaker ref :: rest =>
    match world.allow ref with
    | (.ok _, world) => world.encounters rest
    | (.error _, _) => [.shut]

def encountersOn (world : World) (ref : Ref Limiter) (context : Context) (answer : StoreAnswer)
    (ahead : List Stage) : List Encounter :=
  let kind := (world.limiters.get ref).kind
  let (decision, world) := world.answered ref context answer
  .decided kind context.key decision ::
    if decision.isGranted then (world.account ref context decision).encounters ahead else []

/-- The refusals that the log tells of. -/
def rejections (world : World) : List Event := world.journal.toList.filter Event.isRejection

/-- Between two worlds the counters and the log have gone on as the encounters say. -/
structure Tallies (trace : List Encounter) (world after : World) : Prop where
  calm : after.interruptions = []
  kinds : ∀ ref, (after.limiters.get ref).kind = (world.limiters.get ref).kind
  granted : ∀ kind, (after.metrics.ofKind kind).granted =
    (world.metrics.ofKind kind).granted + trace.countP (Encounter.grants kind)
  rejected : ∀ kind, (after.metrics.ofKind kind).rejected =
    (world.metrics.ofKind kind).rejected + trace.countP (Encounter.rejects kind)
  abandoned : ∀ kind, (after.metrics.ofKind kind).abandoned =
    (world.metrics.ofKind kind).abandoned + trace.countP (Encounter.abandons kind)
  shut : after.metrics.breaker.rejected = world.metrics.breaker.rejected + trace.count .shut
  log : after.rejections = world.rejections ++ trace.filterMap Encounter.rejection?

end World

namespace Metrics

private theorem ofKind_updateKind (metrics : Metrics) (kind other : Kind)
    (change : KindCounts → KindCounts) :
    (metrics.updateKind kind change).ofKind other =
      if kind = other then change (metrics.ofKind kind) else metrics.ofKind other := by
  cases kind <;> cases other <;> rfl

private theorem updateKind_breaker (metrics : Metrics) (kind : Kind)
    (change : KindCounts → KindCounts) :
    (metrics.updateKind kind change).breaker = metrics.breaker := by
  cases kind <;> rfl

private theorem recordDecision_counts (metrics : Metrics) (kind other : Kind) (key : Option String)
    (decision : Decision) :
    let counted := (metrics.recordDecision kind decision).ofKind other
    let encounter := Encounter.decided kind key decision
    counted.granted = (metrics.ofKind other).granted + [encounter].countP (Encounter.grants other) ∧
      counted.rejected =
        (metrics.ofKind other).rejected + [encounter].countP (Encounter.rejects other) ∧
      counted.abandoned =
        (metrics.ofKind other).abandoned + [encounter].countP (Encounter.abandons other) := by
  intro counted encounter
  simp only [counted, encounter, recordDecision, ofKind_updateKind]
  by_cases same : kind = other
  · subst same
    cases decision with
    | granted => simp [Encounter.grants, Encounter.rejects, Encounter.abandons]
    | refused reason retryAfter =>
      cases reason <;>
        simp [Encounter.grants, Encounter.rejects, Encounter.abandons, Reason.abandoned]
  · cases decision <;> simp [Encounter.grants, Encounter.rejects, Encounter.abandons, same]

end Metrics

/-- Breakers write nothing to the log that could be taken for a limiter's refusal. -/
theorem Notice.event?_isRejection (notices : List Notice) :
    (notices.filterMap event?).filter Event.isRejection = [] := by
  induction notices with
  | nil => rfl
  | cons notice rest ih =>
    cases notice <;> simp [event?, List.filterMap_cons, Event.isRejection, ih]

private theorem Limiter.complete_kind (limiter : Limiter) :
    limiter.complete.kind = limiter.kind := by
  cases limiter <;> rfl

theorem Limiter.mapBucket_kind (change : Bucket → Bucket) (limiter : Limiter) :
    (limiter.mapBucket change).kind = limiter.kind := by
  cases limiter <;> rfl

namespace World

variable {world middle after : World} {trace more : List Encounter} {ref : Ref Limiter}

private theorem rejections_record (world : World) (events : List Event) :
    (world.record events).rejections = world.rejections ++ events.filter Event.isRejection := by
  simp [rejections, record]

namespace Tallies

theorem trans (first : Tallies trace world middle) (second : Tallies more middle after) :
    Tallies (trace ++ more) world after where
  calm := second.calm
  kinds ref := (second.kinds ref).trans (first.kinds ref)
  granted kind := by rw [second.granted, first.granted, List.countP_append, Nat.add_assoc]
  rejected kind := by rw [second.rejected, first.rejected, List.countP_append, Nat.add_assoc]
  abandoned kind := by rw [second.abandoned, first.abandoned, List.countP_append, Nat.add_assoc]
  shut := by rw [second.shut, first.shut, List.count_append, Nat.add_assoc]
  log := by rw [second.log, first.log, List.filterMap_append, List.append_assoc]

theorem keeps {kinds : Ref Limiter → Kind} (tallies : Tallies trace world after)
    (same : ∀ ref, (world.limiters.get ref).kind = kinds ref) (ref : Ref Limiter) :
    (after.limiters.get ref).kind = kinds ref :=
  (tallies.kinds ref).trans (same ref)

theorem of_same (calm : after.interruptions = [])
    (kinds : ∀ ref, (after.limiters.get ref).kind = (world.limiters.get ref).kind)
    (metrics : after.metrics = world.metrics) (log : after.rejections = world.rejections) :
    Tallies [] world after where
  calm := calm
  kinds := kinds
  granted _ := by rw [metrics]; rfl
  rejected _ := by rw [metrics]; rfl
  abandoned _ := by rw [metrics]; rfl
  shut := by rw [metrics]; rfl
  log := by rw [log, List.filterMap_nil, List.append_nil]

theorem refl (calm : world.interruptions = []) : Tallies [] world world :=
  of_same calm (fun _ => rfl) rfl rfl

/-- A consultation is not counted before its decision, and a handler is not counted at all. -/
theorem cons {encounter : Encounter} (tallies : Tallies trace world after)
    (uncounted : encounter = .called ∨ ∃ kind, encounter = .consulted kind) :
    Tallies (encounter :: trace) world after := by
  obtain ⟨calm, kinds, granted, rejected, abandoned, shut, log⟩ := tallies
  rcases uncounted with rfl | ⟨kind, rfl⟩
  · exact ⟨calm, kinds, granted, rejected, abandoned, by simpa using shut, log⟩
  · exact ⟨calm, kinds, granted, rejected, abandoned, by simpa using shut, log⟩

private theorem setLimiter (calm : world.interruptions = []) {limiter : Limiter}
    (same : limiter.kind = (world.limiters.get ref).kind) :
    Tallies [] world (world.setLimiter ref limiter) := by
  refine of_same calm ?_ rfl rfl
  intro other
  simp only [World.setLimiter, Table.get_set]
  split
  · next found => rw [same, found]
  · rfl

private theorem complete (calm : world.interruptions = []) (ref : Ref Limiter) :
    Tallies [] world (world.complete ref) :=
  setLimiter calm (Limiter.complete_kind _)

private theorem record (calm : world.interruptions = []) {events : List Event}
    (others : events.filter Event.isRejection = []) : Tallies [] world (world.record events) :=
  of_same calm (fun _ => rfl) rfl (by rw [rejections_record, others, List.append_nil])

/-- A breaker's refusals are counted, and not logged. -/
theorem notify (calm : world.interruptions = []) (notices : List Notice) :
    Tallies (List.replicate (notices.count .rejected) .shut) world (world.notify notices) := by
  have counted := world.metrics.foldl_recordBreaker (notices.filterMap Notice.breakerEvent?)
  have kinds (kind : Kind) :
      (world.notify notices).metrics.ofKind kind = world.metrics.ofKind kind := by
    simp only [World.notify, World.record, counted]
    cases kind <;> rfl
  constructor
  case calm => exact calm
  case kinds => exact fun _ => rfl
  case granted =>
    intro kind
    rw [List.countP_replicate]
    exact congrArg KindCounts.granted (kinds kind)
  case rejected =>
    intro kind
    rw [List.countP_replicate]
    exact congrArg KindCounts.rejected (kinds kind)
  case abandoned =>
    intro kind
    rw [List.countP_replicate]
    exact congrArg KindCounts.abandoned (kinds kind)
  case shut =>
    rw [List.count_replicate_self, ← Notice.count_rejected]
    simp only [World.notify, World.record, counted]
  case log =>
    rw [List.filterMap_replicate_of_none rfl]
    exact (rejections_record world _).trans (by rw [Notice.event?_isRejection])

private theorem notify_other (calm : world.interruptions = []) {notices : List Notice}
    (others : .rejected ∉ notices) : Tallies [] world (world.notify notices) := by
  have tallies := notify calm notices
  rwa [List.count_eq_zero.mpr others, List.replicate_zero] at tallies

private theorem setBreaker (calm : world.interruptions = []) (ref : Ref Circuit)
    (breaker : Breaker) :
    Tallies [] world (world.setBreaker ref breaker) :=
  of_same calm (fun _ => rfl) rfl rfl

theorem account (calm : world.interruptions = []) (ref : Ref Limiter) (context : Context)
    (decision : Decision) :
    Tallies [.decided (world.limiters.get ref).kind context.key decision] world
      (world.account ref context decision) := by
  have counts (kind : Kind) :=
    world.metrics.recordDecision_counts (world.limiters.get ref).kind kind context.key decision
  have metrics : (world.account ref context decision).metrics =
      world.metrics.recordDecision (world.limiters.get ref).kind decision := by
    cases decision <;> rfl
  constructor
  case calm => cases decision <;> exact calm
  case kinds => cases decision <;> exact fun _ => rfl
  case granted => exact fun kind => metrics ▸ (counts kind).1
  case rejected => exact fun kind => metrics ▸ (counts kind).2.1
  case abandoned => exact fun kind => metrics ▸ (counts kind).2.2
  case shut =>
    rw [metrics]
    exact congrArg BreakerCounts.rejected (world.metrics.updateKind_breaker _ _)
  case log =>
    cases decision with
    | granted => exact (List.append_nil _).symm
    | refused reason retryAfter => exact rejections_record world _

/-! Consulting a store is neither counted nor logged as a decision. -/

private theorem recordIfBelow_report (store : MemoryStore) (request : WindowRequest) (now : Nat) :
    (store.recordIfBelow request now).2.2.filter Event.isRejection = [] := by
  have swept : (store.sweepIfDue now request.window).2.filter Event.isRejection = [] := by
    simp only [MemoryStore.sweepIfDue]
    split
    · split <;> rfl
    · rfl
  simp only [MemoryStore.recordIfBelow]
  split <;> exact swept

private theorem consult (calm : world.interruptions = []) (ref : Ref Store)
    (request : WindowRequest) :
    Tallies [] world (world.consult ref request).2 := by
  have recorded (store : MemoryStore) (clock : Ref Clock) (now : Nat) :
      Tallies [] world
        ((world.setStore ref (.memory (store.recordIfBelow request now).2.1 clock)).record
          (store.recordIfBelow request now).2.2) := by
    have stored : Tallies [] world
        (world.setStore ref (.memory (store.recordIfBelow request now).2.1 clock)) :=
      of_same calm (fun _ => rfl) rfl rfl
    exact stored.trans (record stored.calm (recordIfBelow_report store request now))
  unfold World.consult
  cases world.stores.get ref with
  | scripted store => exact of_same calm (fun _ => rfl) rfl rfl
  | memory store clock =>
    cases request.now with
    | some now => exact recorded store clock now
    | none =>
      simp only [World.read, readWithin_undisturbed calm]
      exact recorded store clock _

private theorem beginConsultation (calm : world.interruptions = []) (limiter : SlidingWindow)
    (store : Ref Store) (clock : Option (Ref Clock)) (key : String) :
    Tallies [] world (world.beginConsultation limiter store clock key).2 := by
  unfold World.beginConsultation
  cases clock with
  | none => exact consult calm _ _
  | some clock =>
    simp only [World.read, readWithin_undisturbed calm]
    exact consult calm _ _

/-- A store's failure is counted, but not among the decisions. -/
theorem weigh (calm : world.interruptions = []) (limiter : SlidingWindow) (key : String)
    (answer : StoreAnswer) : Tallies [] world (world.weigh limiter key answer).2 := by
  cases answer with
  | ok recorded => exact refl calm
  | error error =>
    constructor
    case calm => exact calm
    case kinds => exact fun _ => rfl
    case granted => exact fun kind => by cases kind <;> rfl
    case rejected => exact fun kind => by cases kind <;> rfl
    case abandoned => exact fun kind => by cases kind <;> rfl
    case shut => rfl
    case log => exact rejections_record world _

theorem answered (calm : world.interruptions = []) (ref : Ref Limiter) (context : Context)
    (answer : StoreAnswer) : Tallies [] world (world.answered ref context answer).2 := by
  unfold World.answered
  split
  · exact weigh calm _ _ _
  · exact refl calm

theorem ask (calm : world.interruptions = []) (ref : Ref Limiter) (context : Context) :
    Tallies [] world (world.ask ref context).2 := by
  unfold World.ask
  split
  · exact refl calm
  · split
    · next same => exact setLimiter calm (by rw [same]; rfl)
    · next same =>
      simp only [World.read, readWithin_undisturbed calm]
      exact setLimiter calm (by rw [same]; rfl)
    · next window store clock _ =>
      have begun := beginConsultation calm window store clock context.windowKey
      simp only []
      split
      · exact begun
      · exact begun.trans (weigh begun.calm _ _ _)
    · next same => exact setLimiter calm (by rw [same]; rfl)
    · next same => exact setLimiter calm (by rw [same]; rfl)

/-! A breaker that is asked counts its refusal. One to which a permit comes back counts none. -/

private theorem change (calm : world.interruptions = []) (ref : Ref Circuit) (breaker : Breaker)
    (notices : List Notice) :
    Tallies (List.replicate (notices.count .rejected) .shut) world
      ((world.setBreaker ref breaker).notify notices) := by
  have changed := setBreaker calm ref breaker
  exact changed.trans (notify changed.calm notices)

private theorem change_other (calm : world.interruptions = []) (ref : Ref Circuit)
    (breaker : Breaker) {notices : List Notice} (others : .rejected ∉ notices) :
    Tallies [] world ((world.setBreaker ref breaker).notify notices) := by
  have changed := setBreaker calm ref breaker
  exact changed.trans (notify_other changed.calm others)

private theorem allow_answered (calm : world.interruptions = []) (ref : Ref Circuit) (steps : Nat)
    (answers : (world.breaker ref).word.state ≠ .opened) :
    Tallies (if (world.allowWithin (steps + 1) ref).1.isOk then [] else [.shut]) world
      (world.allowWithin (steps + 1) ref).2 := by
  cases state : (world.breaker ref).word.state with
  | opened => exact absurd state answers
  | closed =>
    simp only [allowWithin, Breaker.inquire_closed state]
    exact change_other calm ref _ List.not_mem_nil
  | halfOpen =>
    by_cases full :
        (world.breaker ref).settings.halfOpenMaxCalls ≤ (world.breaker ref).trials
    · simp only [allowWithin, Breaker.inquire_full state full]
      exact change calm ref _ [.rejected]
    · simp only [allowWithin, Breaker.inquire_free state full]
      exact change_other calm ref _ (by simp)

/-- An open breaker that is asked in time begins a round, and then it is asked once more. -/
theorem allow (calm : world.interruptions = []) (ref : Ref Circuit) :
    Tallies (if (world.allow ref).1.isOk then [] else [.shut]) world (world.allow ref).2 := by
  have steps : world.steps = 4 := by simp [World.steps, calm]
  rw [World.allow, steps]
  by_cases opened : (world.breaker ref).word.state = .opened
  · have left : world.Leaves ref (world.circuits.get ref).clock (world.breaker ref) :=
      ⟨rfl, rfl, calm⟩
    rw [left.allow_opened opened 3]
    have noted := change_other calm ref (world.breaker ref) List.not_mem_nil
    generalize (world.setBreaker ref (world.breaker ref)).notify [] = seen at noted
    by_cases early : (world.clocks.get (world.circuits.get ref).clock).now -
        (world.breaker ref).openedAt < (world.breaker ref).settings.recoveryMillis
    · simp only [Breaker.timed_early early]
      exact noted.trans (change noted.calm ref _ [.rejected])
    · simp only [Breaker.timed_late early]
      have begun := change_other noted.calm ref (world.breaker ref).beginRound
        (by simp : Notice.rejected ∉ [Notice.halfOpened])
      have answers : (((seen.setBreaker ref (world.breaker ref).beginRound).notify
          [.halfOpened]).breaker ref).word.state ≠ .opened := by
        rw [breaker_change, if_pos rfl]
        intro opened
        cases opened
      exact (noted.trans begun).trans (allow_answered begun.calm ref 2 answers)
  · exact allow_answered calm ref 3 opened

private theorem resolve (calm : world.interruptions = []) (ref : Ref Circuit) (permit : Permit)
    (verdict : Verdict) : Tallies [] world (world.resolve ref permit verdict) := by
  have steps : world.steps = 4 := by simp [World.steps, calm]
  rw [World.resolve, steps]
  cases verdict with
  | none => exact setBreaker calm ref _
  | success =>
    exact change_other calm ref _ (Breaker.rejected_notMem_succeed _ permit)
  | failure =>
    have failed := setBreaker calm ref ((world.breaker ref).fail permit).1
    simp only [resolveWithin]
    split
    · exact failed
    · next opening _ =>
      rw [readWithin_undisturbed failed.calm]
      refine failed.trans (change_other failed.calm ref _ ?_)
      cases opening <;> simp [Breaker.stamp]

/-! What a request does on its way, and at its end. -/

theorem endures :
    Endures fun world after => world.interruptions = [] → Tallies [] world after where
  refl _ := refl
  trans first second calm := (first calm).trans (second (first calm).calm)
  complete _ ref calm := complete calm ref
  resolve _ ref permit verdict calm := resolve calm ref permit verdict

/-- A request is counted and logged for what it meets with in its stages. -/
theorem pass (calm : world.interruptions = []) (request : Request) (stages : List Stage) :
    Tallies (world.encounters stages) world (world.pass request stages).2 := by
  induction stages generalizing world request with
  | nil => exact (endures.handle _ _ calm).cons (.inl rfl)
  | cons stage rest ih =>
    cases stage with
    | limiter ref context =>
      have asked := ask calm ref context
      simp only [World.pass, World.encounters]
      generalize world.ask ref context = reply at asked
      obtain ⟨answer, left⟩ := reply
      cases answer with
      | waiting consultation => exact asked.cons (.inr ⟨_, rfl⟩)
      | decided decision =>
        have accounted := asked.trans (account asked.calm ref context decision)
        rw [asked.kinds] at accounted
        cases decision with
        | granted => exact (accounted.trans (ih accounted.calm _)).cons (.inr ⟨_, rfl⟩)
        | refused reason retryAfter =>
          exact (accounted.trans (endures.refuse _ _ _ accounted.calm)).cons (.inr ⟨_, rfl⟩)
    | breaker ref =>
      have allowed := allow calm ref
      simp only [World.pass, World.encounters]
      generalize world.allow ref = reply at allowed
      obtain ⟨answer, left⟩ := reply
      cases answer with
      | ok permit => exact allowed.trans (ih allowed.calm _)
      | error refusal => exact allowed.trans (endures.refuse _ _ _ allowed.calm)

theorem passOn (calm : world.interruptions = []) (request : Request) (ref : Ref Limiter)
    (context : Context) (answer : StoreAnswer) :
    Tallies (world.encountersOn ref context answer request.ahead) world
      (world.passOn request ref context answer).2 := by
  have weighed := answered calm ref context answer
  unfold World.passOn World.encountersOn
  generalize world.answered ref context answer = judged at weighed
  obtain ⟨decision, left⟩ := judged
  have accounted := weighed.trans (account weighed.calm ref context decision)
  rw [weighed.kinds] at accounted
  cases decision with
  | granted => exact accounted.trans (pass accounted.calm _ _)
  | refused reason retryAfter => exact accounted.trans (endures.refuse _ _ _ accounted.calm)

end Tallies

end World

end AdmissionControl
