import AdmissionControl.Proofs.Pipeline.Composition
import AdmissionControl.Proofs.Pipeline.Slots

namespace AdmissionControl

def Limiter.store? (limiter : Limiter) : Option (Ref Store) := limiter.window?.map (·.2.1)

namespace World

/-- A relation between worlds that stands whatever an execution does, one thing after the other: it
asks some limiters, faces one breaker or none, and other things happen. -/
structure Carries (others : World → World → Prop) (context : Context) (asked : List (Ref Limiter))
    (faced : Option (Ref Circuit)) (stands : World → World → Prop) : Prop where
  refl : ∀ world, stands world world
  trans : ∀ {world middle after}, stands world middle → stands middle after → stands world after
  same : ∀ {world after : World}, world.Matches after → stands world after
  other : ∀ {world after}, others world after → stands world after
  ask : ∀ limiter ∈ asked, ∀ world, stands world (world.ask limiter context).2
  answered : ∀ limiter ∈ asked, ∀ world answer,
    stands world (world.answered limiter context answer).2
  account : ∀ limiter ∈ asked, ∀ world decision,
    stands world (world.account limiter context decision)
  allow : ∀ circuit, faced = some circuit → ∀ world, stands world (world.allow circuit).2
  resolve : ∀ circuit, faced = some circuit → ∀ world permit verdict,
    stands world (world.resolve circuit permit verdict)
  complete : ∀ limiter ∈ asked, ∀ world, stands world (world.complete limiter)

variable {others stands : World → World → Prop} {context : Context} {stack : Stack}
  {operation : Outcome} {asked passed : List (Ref Limiter)} {faced : Option (Ref Circuit)}
  {limiter : Ref Limiter} {course : Course} {world now left after : World}

private theorem Beside.untouched {α : Type u} {see : World → α} (untouched : Untouched others see)
    (unnoted : ∀ {one other : World}, one.Matches other → see other = see one)
    (meanwhile : Beside others world after) : see after = see world := by
  induction meanwhile with
  | refl => rfl
  | tail _ step ih =>
    rcases step with same | happens
    · exact (unnoted same).trans ih
    · exact (untouched _ _ happens).trans ih

namespace Carries

private theorem beside (carries : Carries others context asked faced stands)
    (meanwhile : Beside others world after) : stands world after := by
  induction meanwhile with
  | refl => exact carries.refl world
  | tail _ step ih =>
    rcases step with same | happens
    · exact carries.trans ih (carries.same same)
    · exact carries.trans ih (carries.other happens)

private theorem decides (carries : Carries others context asked faced stands)
    (member : limiter ∈ asked)
    {decision : Decision} (decides : Decides others context limiter world decision after) :
    stands world after := by
  have asks := carries.ask limiter member world
  cases decides with
  | atOnce here =>
    rw [here] at asks
    exact carries.trans asks (carries.account limiter member _ _)
  | @afterwards _ _ later _ answer _ here meanwhile _ weighs =>
    have answers := carries.answered limiter member later answer
    rw [here] at asks
    rw [weighs] at answers
    have waited := carries.trans asks (carries.beside meanwhile)
    exact carries.trans (carries.trans waited answers) (carries.account limiter member _ _)

private theorem admits (carries : Carries others context asked faced stands)
    (admits : Admits others context world passed after)
    (members : ∀ limiter ∈ passed, limiter ∈ asked) : stands world after := by
  induction admits with
  | begun before => exact carries.beside before
  | next _ grants ih =>
    have earlier := ih fun limiter member => members limiter (List.mem_append_left _ member)
    have last := members _ (List.mem_append_right _ (List.mem_singleton_self _))
    exact carries.trans earlier (carries.decides last grants)

private theorem told (carries : Carries others context asked faced stands)
    (members : ∀ limiter ∈ passed, limiter ∈ asked) (world : World) :
    stands world (passed.foldl World.complete world) := by
  induction passed generalizing world with
  | nil => exact carries.refl world
  | cons limiter rest ih =>
    rw [List.forall_mem_cons] at members
    exact carries.trans (carries.complete limiter members.1 world) (ih members.2 _)

end Carries

private theorem Composes.admitted_asked
    (composes : Composes others context stack operation world course left) :
    ∀ limiter ∈ course.admitted, limiter ∈ course.asked := by
  cases composes with
  | refused => exact fun limiter member => List.mem_append_left _ member
  | shut => exact fun limiter member => member
  | ran => exact fun limiter member => member

private theorem Composes.carries
    (composes : Composes others context stack operation world course left)
    (carries : Carries others context course.asked course.faced stands) : stands world left := by
  have members := composes.admitted_asked
  cases composes with
  | @refused passed behind limiter _ _ _ _ split admits refuses =>
    have last : limiter ∈ passed ++ [limiter] :=
      List.mem_append_right passed (List.mem_singleton_self limiter)
    exact carries.trans (carries.admits admits members) (carries.decides last refuses)
  | @shut circuit _ middle _ guarded admits refuses =>
    have allows := carries.allow circuit rfl middle
    rw [refuses] at allows
    exact carries.trans (carries.admits admits members) allows
  | ran enters runs =>
    cases enters with
    | freely unguarded admits =>
      exact carries.trans (carries.admits admits members) (carries.beside runs)
    | @withPermit circuit permit middle entered guarded admits allows =>
      have allowed := carries.allow circuit guarded middle
      rw [allows] at allowed
      have reached := carries.trans (carries.admits admits members) allowed
      exact carries.trans (carries.trans reached (carries.beside runs))
        (carries.resolve circuit guarded _ _ _)

/-- Whatever each thing keeps that an execution does, the execution keeps. -/
theorem Executes.carries
    (executes : Executes others context stack operation world course left after)
    (carries : Carries others context course.asked course.faced stands) : stands world after :=
  carries.trans (carries.trans (executes.composes.carries carries)
    (carries.told executes.composes.admitted_asked left)) (carries.beside executes.told)

private theorem Carries.unasked (unasked : limiter ∉ asked)
    (untouched : Untouched others (·.limiters.get limiter)) :
    Carries others context asked faced fun world after =>
      after.limiters.get limiter = world.limiters.get limiter where
  refl _ := rfl
  trans first second := second.trans first
  same matching := congrArg (Table.get · limiter) matching.limiters
  other happens := untouched _ _ happens
  ask other member world := by
    have apart : other ≠ limiter := fun same => unasked (same ▸ member)
    exact world.ask_limiters apart context
  answered other _ world answer := by rw [answered_limiters]
  account other _ world decision := by rw [account_limiters]
  allow circuit _ world :=
    congrArg (Table.get · limiter) ((keptWithin world.steps).allow world circuit).limiters
  resolve circuit _ world permit verdict :=
    congrArg (Table.get · limiter)
      ((keptWithin world.steps).resolve world circuit permit verdict).limiters
  complete other member world := by
    have apart : other ≠ limiter := fun same => unasked (same ▸ member)
    rw [World.complete, Table.get_modify, if_neg apart]

variable {ref : Ref Store}

private theorem consult_elsewhere (world : World) {store : Ref Store} (apart : store ≠ ref)
    (request : WindowRequest) :
    (world.consult store request).2.stores.get ref = world.stores.get ref := by
  have set (world : World) (changed : Store) :
      (world.setStore store changed).stores.get ref = world.stores.get ref := by
    rw [setStore, Table.get_set, if_neg apart]
  unfold consult
  cases world.stores.get store with
  | memory memory clock =>
    cases request.now with
    | some now => exact set _ _
    | none =>
      have kept := (keptWithin world.steps).read world clock
      exact (set _ _).trans (congrArg (Table.get · ref) kept.stores)
  | scripted scripted => exact set _ _

private theorem ask_windows (world : World) (context : Context) (other : Ref Limiter) :
    ((world.ask limiter context).2.limiters.get other).window? =
      (world.limiters.get other).window? := by
  cases sliding : world.limiters.get limiter with
  | slidingWindow window store clock =>
    have begun := world.beginConsultation_limiters window store clock context.windowKey
    unfold ask
    cases context.abandoned? world.tokens world.now with
    | some reason => rfl
    | none =>
      simp only [sliding]
      split
      · rw [begun]
      · simp only []
        rw [weigh_limiters, begun]
  | _ =>
    have none : (world.limiters.get limiter).window? = none := by rw [sliding]; rfl
    exact (@ask_spares default world limiter none context).windows other

private theorem ask_elsewhere (world : World) (context : Context)
    (elsewhere : (world.limiters.get limiter).store? ≠ some ref) :
    (world.ask limiter context).2.stores.get ref = world.stores.get ref := by
  cases sliding : world.limiters.get limiter with
  | slidingWindow window store clock =>
    have apart : store ≠ ref := by
      intro same
      rw [sliding] at elsewhere
      exact elsewhere (congrArg some same)
    have begun : (world.beginConsultation window store clock context.windowKey).2.stores.get ref =
        world.stores.get ref := by
      unfold beginConsultation
      cases clock with
      | none => exact world.consult_elsewhere apart _
      | some clock =>
        have kept := (keptWithin world.steps).read world clock
        exact (consult_elsewhere _ apart _).trans (congrArg (Table.get · ref) kept.stores)
    unfold ask
    cases context.abandoned? world.tokens world.now with
    | some reason => rfl
    | none =>
      simp only [sliding]
      split
      · exact begun
      · next answer _ => cases answer <;> exact begun
  | _ =>
    have none : (world.limiters.get limiter).window? = none := by rw [sliding]; rfl
    exact (ask_spares none context).store

/-- The limiters consult the stores that they did, and a store is as it was unless one of those that
are asked consults it. -/
structure Apart (ref : Ref Store) (asked : List (Ref Limiter)) (world after : World) : Prop where
  wired : ∀ limiter, (after.limiters.get limiter).store? = (world.limiters.get limiter).store?
  store : (∀ limiter ∈ asked, (world.limiters.get limiter).store? ≠ some ref) →
    after.stores.get ref = world.stores.get ref

private theorem Apart.of_spares (spared : world.Spares ref after) : world.Apart ref asked after :=
  ⟨fun limiter => by rw [Limiter.store?, spared.windows, Limiter.store?], fun _ => spared.store⟩

private theorem Apart.of_keeps (kept : world.Keeps after) : world.Apart ref asked after :=
  .of_spares (.of_keeps kept)

private theorem Carries.unconsulted
    (wired : Untouched others fun world limiter => (world.limiters.get limiter).store?)
    (untouched : Untouched others (·.stores.get ref)) :
    Carries others context asked faced (Apart ref asked) where
  refl world := .of_spares (.refl ref world)
  trans first second := by
    refine ⟨fun limiter => (second.wired limiter).trans (first.wired limiter), fun elsewhere => ?_⟩
    refine (second.store fun limiter member => ?_).trans (first.store elsewhere)
    rw [first.wired]
    exact elsewhere limiter member
  same matching := by
    rw [matching.eq_note]
    exact ⟨fun _ => rfl, fun _ => rfl⟩
  other happens := ⟨fun limiter => congrFun (wired _ _ happens) limiter, fun _ =>
    untouched _ _ happens⟩
  ask limiter member world := by
    refine ⟨fun other => ?_,
      fun elsewhere => world.ask_elsewhere context (elsewhere limiter member)⟩
    rw [Limiter.store?, ask_windows, Limiter.store?]
  answered limiter _ world answer := by
    unfold World.answered
    split
    · cases answer <;> exact ⟨fun _ => rfl, fun _ => rfl⟩
    · exact ⟨fun _ => rfl, fun _ => rfl⟩
  account limiter _ world decision := .of_spares (.account world limiter context decision)
  allow circuit _ world := .of_keeps ((keptWithin world.steps).allow world circuit)
  resolve circuit _ world permit verdict :=
    .of_keeps ((keptWithin world.steps).resolve world circuit permit verdict)
  complete limiter _ world := .of_spares (.complete world limiter)

structure Alone (circuit : Ref Circuit) (world after : World) : Prop where
  calm : after.interruptions = []
  circuit : after.circuits.get circuit = world.circuits.get circuit

variable {circuit other : Ref Circuit}

namespace Alone

theorem refl (calm : world.interruptions = []) : world.Alone circuit world := ⟨calm, rfl⟩

theorem trans {middle : World} (first : world.Alone circuit middle)
    (second : middle.Alone circuit after) : world.Alone circuit after :=
  ⟨second.calm, second.circuit.trans first.circuit⟩

private theorem change (calm : world.interruptions = []) (apart : other ≠ circuit)
    (breaker : Breaker) (notices : List Notice) :
    world.Alone circuit ((world.setBreaker other breaker).notify notices) where
  calm := calm
  circuit := by simp only [notify, record, setBreaker, Table.get_modify, if_neg apart]

private theorem allowWithin (calm : world.interruptions = []) (apart : other ≠ circuit)
    (steps : Nat) :
    world.Alone circuit (world.allowWithin steps other).2 := by
  induction steps generalizing world with
  | zero => exact refl calm
  | succ steps ih =>
    have asked := change calm apart (world.breaker other).inquire.1
      (world.breaker other).inquire.2.1
    unfold World.allowWithin
    simp only []
    split
    · exact asked
    · exact asked
    · rw [readWithin_undisturbed asked.calm]
      simp only []
      have timed (breaker : Breaker) (notices : List Notice) :=
        asked.trans (change asked.calm apart breaker notices)
      split
      · exact timed _ _
      · exact (timed _ _).trans (ih (timed _ _).calm)

private theorem resolveWithin (calm : world.interruptions = []) (apart : other ≠ circuit)
    (steps : Nat) (permit : Permit) (verdict : Verdict) :
    world.Alone circuit (world.resolveWithin steps other permit verdict) := by
  cases steps with
  | zero => exact refl calm
  | succ steps =>
    cases verdict with
    | success => exact change calm apart _ _
    | none => exact change calm apart _ []
    | failure =>
      have failed := change calm apart ((world.breaker other).fail permit).1 []
      simp only [World.resolveWithin]
      split
      · exact failed
      · rw [readWithin_undisturbed (show (world.setBreaker other _).interruptions = [] from calm)]
        exact failed.trans (change failed.calm apart _ _)

/-! Asking a limiter. -/

private theorem consult (calm : world.interruptions = []) (store : Ref Store)
    (request : WindowRequest) :
    world.Alone circuit (world.consult store request).2 := by
  unfold World.consult
  cases world.stores.get store with
  | scripted scripted => exact ⟨calm, rfl⟩
  | memory memory clock =>
    cases request.now with
    | some now => exact ⟨calm, rfl⟩
    | none =>
      simp only [World.read, readWithin_undisturbed calm]
      exact ⟨calm, rfl⟩

private theorem beginConsultation (calm : world.interruptions = []) (window : SlidingWindow)
    (store : Ref Store) (clock : Option (Ref Clock)) (key : String) :
    world.Alone circuit (world.beginConsultation window store clock key).2 := by
  unfold World.beginConsultation
  cases clock with
  | none => exact consult calm _ _
  | some clock =>
    simp only [World.read, readWithin_undisturbed calm]
    exact consult calm _ _

private theorem weigh (calm : world.interruptions = []) (window : SlidingWindow) (key : String)
    (answer : StoreAnswer) : world.Alone circuit (world.weigh window key answer).2 := by
  cases answer <;> exact ⟨calm, rfl⟩

private theorem ask (calm : world.interruptions = []) (limiter : Ref Limiter) (context : Context) :
    world.Alone circuit (world.ask limiter context).2 := by
  unfold World.ask
  split
  · exact refl calm
  · split
    · exact ⟨calm, rfl⟩
    · simp only [World.read, readWithin_undisturbed calm]
      exact ⟨calm, rfl⟩
    · next window store clock _ =>
      have begun := @beginConsultation _ circuit calm window store clock context.windowKey
      simp only []
      split
      · exact begun
      · exact begun.trans (weigh begun.calm _ _ _)
    · exact ⟨calm, rfl⟩
    · exact ⟨calm, rfl⟩

end Alone

private theorem Carries.unfaced (unfaced : faced ≠ some circuit)
    (undisturbed : Untouched others (·.interruptions))
    (untouched : Untouched others (·.circuits.get circuit)) :
    Carries others context asked faced fun world after =>
      world.interruptions = [] → world.Alone circuit after where
  refl _ calm := .refl calm
  trans first second calm := (first calm).trans (second (first calm).calm)
  same matching calm := by
    have circuits := congrArg World.circuits matching
    exact ⟨(congrArg World.interruptions matching).symm.trans calm,
      congrArg (Table.get · circuit) circuits.symm⟩
  other happens calm := ⟨(undisturbed _ _ happens).trans calm, untouched _ _ happens⟩
  ask limiter _ world calm := .ask calm limiter context
  answered limiter _ world answer calm := by
    unfold World.answered
    split
    · exact .weigh calm _ _ _
    · exact .refl calm
  account limiter _ world decision calm := by cases decision <;> exact ⟨calm, rfl⟩
  allow other here world calm :=
    .allowWithin calm (fun same => unfaced (here.trans (congrArg some same))) world.steps
  resolve other here world permit verdict calm :=
    .resolveWithin calm (fun same => unfaced (here.trans (congrArg some same))) world.steps
      permit verdict
  complete limiter _ world calm := ⟨calm, rfl⟩

/-! Slots. -/

variable {slots : Ref Limiter} {concurrency : Concurrency} {taken : Nat}

/-- So many slots of a limiter are taken beside those that were. -/
def Takes (slots : Ref Limiter) (concurrency : Concurrency) (taken : Nat) (world : World) : Prop :=
  world.limiters.get slots =
    .concurrency { concurrency with inFlight := concurrency.inFlight + taken }

namespace Takes

private theorem of_same (takes : world.Takes slots concurrency taken)
    (same : after.limiters.get slots = world.limiters.get slots) :
    after.Takes slots concurrency taken := same.trans takes

private theorem beside (takes : world.Takes slots concurrency taken)
    (untouched : Untouched others (·.limiters.get slots)) (meanwhile : Beside others world after) :
    after.Takes slots concurrency taken :=
  takes.of_same (meanwhile.untouched untouched fun same => by rw [same.limiters])

/-- A limiter that is asked takes a slot if it lets the request through. It keeps nobody waiting. -/
theorem ask (takes : world.Takes slots concurrency taken) (context : Context) :
    (∃ after, world.ask slots context = (.decided .granted, after) ∧
        after.Takes slots concurrency (taken + 1)) ∨
      ∃ reason retryAfter after,
        world.ask slots context = (.decided (.refused reason retryAfter), after) ∧
          after.Takes slots concurrency taken := by
  unfold World.ask
  cases context.abandoned? world.tokens world.now with
  | some reason => exact .inr ⟨reason, none, world, rfl, takes⟩
  | none =>
    have found : world.limiters.get slots = _ := takes
    simp only [found, Concurrency.decide]
    rcases Concurrency.take_cases
      { concurrency with inFlight := concurrency.inFlight + taken } with
      ⟨given, -⟩ | ⟨refused, -⟩
    · rw [given]
      refine .inl ⟨_, rfl, ?_⟩
      rw [Takes, setLimiter, Table.get_set_self]
      rfl
    · rw [refused]
      refine .inr ⟨_, _, _, rfl, ?_⟩
      rw [Takes, setLimiter, Table.get_set_self]

private theorem decides (takes : world.Takes slots concurrency taken)
    (untouched : Untouched others (·.limiters.get slots)) {decision : Decision}
    (decides : Decides others context limiter world decision after) :
    after.Takes slots concurrency
      (taken + if limiter = slots ∧ decision.isGranted then 1 else 0) := by
  by_cases same : limiter = slots
  · subst same
    obtain ⟨left, asks, more⟩ | ⟨reason, retryAfter, left, asks, kept⟩ := takes.ask context
    · cases decides with
      | atOnce here =>
        cases asks.symm.trans here
        rw [if_pos ⟨rfl, rfl⟩]
        exact more.of_same (by rw [account_limiters])
      | afterwards here => cases asks.symm.trans here
    · cases decides with
      | atOnce here =>
        cases asks.symm.trans here
        rw [if_neg (by simp [Decision.isGranted])]
        exact kept.of_same (by rw [account_limiters])
      | afterwards here => cases asks.symm.trans here
  · rw [if_neg fun both => same both.1]
    have spared := takes.of_same (world.ask_limiters same context)
    cases decides with
    | atOnce here =>
      rw [here] at spared
      exact spared.of_same (by rw [account_limiters])
    | @afterwards _ _ later _ answer _ here meanwhile _ weighs =>
      rw [here] at spared
      have answered := later.answered_limiters limiter context answer
      rw [weighs] at answered
      exact (spared.beside untouched meanwhile).of_same (by rw [account_limiters, answered])

private theorem admits (takes : world.Takes slots concurrency 0)
    (untouched : Untouched others (·.limiters.get slots))
    (admits : Admits others context world passed after) :
    after.Takes slots concurrency (passed.count slots) := by
  induction admits with
  | begun before => exact takes.beside untouched before
  | next _ grants ih =>
    have more := ih.decides untouched grants
    rw [List.count_append, List.count_singleton]
    simpa [Decision.isGranted] using more

private theorem composes (takes : world.Takes slots concurrency 0)
    (untouched : Untouched others (·.limiters.get slots))
    (composes : Composes others context stack operation world course left) :
    left.Takes slots concurrency (course.admitted.count slots) := by
  cases composes with
  | refused split admits refuses =>
    have more := (takes.admits untouched admits).decides untouched refuses
    simpa [Decision.isGranted] using more
  | @shut circuit _ middle _ guarded admits refuses =>
    have kept : (middle.allow circuit).2.limiters = middle.limiters :=
      ((keptWithin middle.steps).allow middle circuit).limiters
    have faced := (takes.admits untouched admits).of_same (congrArg (Table.get · slots) kept)
    rwa [refuses] at faced
  | @ran entry _ later enters runs =>
    cases enters with
    | freely unguarded admits => exact (takes.admits untouched admits).beside untouched runs
    | @withPermit circuit permit middle _ guarded admits allows =>
      have kept : (middle.allow circuit).2.limiters = middle.limiters :=
        ((keptWithin middle.steps).allow middle circuit).limiters
      have entered := (takes.admits untouched admits).of_same (congrArg (Table.get · slots) kept)
      rw [allows] at entered
      refine (entered.beside untouched runs).of_same ?_
      exact congrArg (Table.get · slots)
        ((keptWithin later.steps).resolve later circuit _ _).limiters

private theorem told (takes : world.Takes slots concurrency (passed.count slots)) :
    (passed.foldl World.complete world).Takes slots concurrency 0 := by
  induction passed generalizing world with
  | nil => exact takes
  | cons limiter rest ih =>
    apply ih
    rw [Takes, World.complete, Table.get_modify]
    rw [Takes, List.count_cons] at takes
    split
    · next same =>
      subst same
      rw [takes, Limiter.complete, Concurrency.release]
      simp [← Nat.add_assoc]
    · next apart => rw [takes, if_neg (by simpa using apart), Nat.add_zero]

end Takes

/-! What was taken otherwise stays taken. -/

private theorem complete_kept (world : World) (told kept : Ref Limiter)
    (other : (world.limiters.get kept).kind ≠ .concurrency) :
    (world.complete told).limiters.get kept = world.limiters.get kept := by
  rw [complete, Table.get_modify]
  split
  · next same =>
    subst same
    cases found : world.limiters.get told with
    | concurrency limiter => exact absurd (by rw [found]; rfl) other
    | _ => rfl
  · rfl

private theorem told_kept (told : List (Ref Limiter)) (world : World) (kept : Ref Limiter)
    (other : (world.limiters.get kept).kind ≠ .concurrency) :
    (told.foldl complete world).limiters.get kept = world.limiters.get kept := by
  induction told generalizing world with
  | nil => rfl
  | cons limiter rest ih =>
    have same := world.complete_kept limiter kept other
    exact (ih _ (by rwa [same])).trans same

private theorem told_stores (told : List (Ref Limiter)) (world : World) :
    (told.foldl complete world).stores = world.stores := by
  induction told generalizing world with
  | nil => rfl
  | cons limiter rest ih => exact ih _

/-- What an execution has done that has ended, and all that it has done. `left` is the world before
the limiters were told of its end. -/
structure Accomplishes (others : World → World → Prop) (context : Context) (stack : Stack)
    (operation : Outcome) (world : World) (course : Course) (left after : World) : Prop where
  executes : Executes others context stack operation world course left after
  /-- Limiters behind the one that refuses stay as they were. -/
  unasked : ∀ limiter, limiter ∉ course.asked → Untouched others (·.limiters.get limiter) →
    after.limiters.get limiter = world.limiters.get limiter
  /-- So do their stores, unless a limiter before consults them. -/
  unconsulted : ∀ store,
    (∀ limiter ∈ course.asked, (world.limiters.get limiter).store? ≠ some store) →
    Untouched others (fun world limiter => (world.limiters.get limiter).store?) →
    Untouched others (·.stores.get store) → after.stores.get store = world.stores.get store
  /-- So do all breakers but the one that is faced. -/
  unfaced : ∀ circuit, course.faced ≠ some circuit → world.interruptions = [] →
    Untouched others (·.interruptions) → Untouched others (·.circuits.get circuit) →
    after.circuits.get circuit = world.circuits.get circuit
  /-- All slots are back. -/
  returned : ∀ limiter concurrency, world.limiters.get limiter = .concurrency concurrency →
    Untouched others (·.limiters.get limiter) →
    after.limiters.get limiter = .concurrency concurrency
  /-- Quota and tokens do not come back. -/
  consumed : ∀ limiter, (left.limiters.get limiter).kind ≠ .concurrency →
    Untouched others (·.limiters.get limiter) →
    after.limiters.get limiter = left.limiters.get limiter
  /-- Nor do the events that stores have recorded. -/
  recorded : ∀ store, Untouched others (·.stores.get store) →
    after.stores.get store = left.stores.get store

theorem Executes.accomplishes
    (executes : Executes others context stack operation world course left after) :
    Accomplishes others context stack operation world course left after where
  executes := executes
  unasked limiter unasked untouched := executes.carries (.unasked unasked untouched)
  unconsulted store elsewhere wired untouched :=
    (executes.carries (.unconsulted wired untouched)).store elsewhere
  unfaced circuit unfaced calm undisturbed untouched :=
    (executes.carries (.unfaced unfaced undisturbed untouched) calm).circuit
  returned limiter concurrency found untouched := by
    have takes : world.Takes limiter concurrency 0 := found
    have back := (takes.composes untouched executes.composes).told
    exact back.beside untouched executes.told
  consumed limiter other untouched :=
    (executes.told.untouched untouched fun same => by rw [same.limiters]).trans
      (told_kept course.admitted left limiter other)
  recorded store untouched :=
    (executes.told.untouched untouched fun same => by rw [same.stores]).trans
      (congrArg (Table.get · store) (told_stores course.admitted left))

end World

end AdmissionControl
