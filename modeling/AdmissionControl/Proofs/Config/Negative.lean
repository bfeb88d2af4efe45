import AdmissionControl.Proofs.Config.RoundTrip
import AdmissionControl.Proofs.Pipeline.Building
import AdmissionControl.World.Time
/-!
A negative number of a description counts as one that is left out, but for the level at which a
leaky bucket starts: left out it means full, and negative it means empty.
-/

namespace AdmissionControl

open Json (retained)

def Json.isNegative : Json → Bool
  | .integer value => value < 0
  | _ => false

/-- A part of a description, and the names of the numbers that are left out of its text if they are
negative. -/
structure Draft (Spec : Type) where
  spec : Spec
  omitted : String → Bool

structure ConfigDraft where
  limiters : List (Draft LimiterSpec)
  breaker : Option (Draft BreakerSpec) := none

namespace Draft

variable {Spec : Type}

def keeps (draft : Draft Spec) (member : String × Json) : Bool :=
  !(draft.omitted member.1 && member.2.isNegative)

/-- A leaky bucket whose level is negative and left out. -/
def losesLevel (draft : Draft LimiterSpec) : Bool :=
  match draft.spec with
  | .leakyBucket _ _ (some level) =>
    draft.omitted "initial_level" && (Json.ofInt64 level).isNegative
  | _ => false

private theorem toNat_retained (draft : Draft Spec) (name : String) (value : Int64) :
    (retained draft.keeps name .ofInt64 value 0).toInt.toNat = value.toInt.toNat := by
  rw [retained]
  split
  · rfl
  · next dropped =>
    have negative : value.toInt < 0 := by
      simp only [keeps, Json.ofInt64, Json.isNegative, Bool.not_eq_true', Bool.not_eq_false,
        Bool.and_eq_true, decide_eq_true_eq] at dropped
      exact dropped.2
    rw [Int64.toInt_zero, Int.toNat_zero, Int.toNat_of_nonpos (Int.le_of_lt negative)]

@[simp] theorem countOf_retained (draft : Draft Spec) (name : String) (value : Int64) :
    countOf (retained draft.keeps name .ofInt64 value 0) = countOf value :=
  draft.toNat_retained name value

@[simp] theorem spanOf_retained (draft : Draft Spec) (name : String) (value : Int64) :
    spanOf (retained draft.keeps name .ofInt64 value 0) = spanOf value :=
  congrArg Duration.ofMillis (draft.toNat_retained name value)

private theorem retained_of_not_negative {α : Type} (draft : Draft Spec) (name : String)
    {write : α → Json} {value default : α} (shown : (write value).isNegative = false) :
    retained draft.keeps name write value default = value := by
  rw [retained, if_pos]
  rw [keeps, shown, Bool.and_false, Bool.not_false]

private theorem retained_level (draft : Draft Spec) (initial : Option Int64) :
    retained draft.keeps "initial_level" (.ofOption .ofInt64) initial none =
      initial.filter fun level =>
        !(draft.omitted "initial_level" && (Json.ofInt64 level).isNegative) := by
  cases initial with
  | none => exact ite_self none
  | some level => rfl

/-- Only a leaky bucket that loses its level is planned in another way. -/
theorem ofSpec_retain (draft : Draft LimiterSpec) (kept : draft.losesLevel = false) :
    LimiterPlan.ofSpec (draft.spec.retain draft.keeps) = LimiterPlan.ofSpec draft.spec := by
  cases described : draft.spec with
  | slidingWindow threshold window policy timeout keyPrefix =>
    have named : retained draft.keeps "failure_policy" (.string ·.name) policy .failClosed =
        policy :=
      draft.retained_of_not_negative _ rfl
    have called : retained draft.keeps "key_prefix" (.ofOption .string) keyPrefix none =
        keyPrefix := by
      cases keyPrefix <;> exact draft.retained_of_not_negative _ rfl
    simp only [LimiterSpec.retain, LimiterPlan.ofSpec, countOf_retained, spanOf_retained, named,
      called]
  | leakyBucket capacity rate initial =>
    have level : retained draft.keeps "initial_level" (.ofOption .ofInt64) initial none =
        initial := by
      cases initial with
      | none => exact ite_self none
      | some level =>
        simp only [losesLevel, described] at kept
        rw [retained_level, Option.filter_some, kept, Bool.not_false, if_pos rfl]
    simp only [LimiterSpec.retain, LimiterPlan.ofSpec, countOf_retained, spanOf_retained, level]
  | _ => simp [LimiterSpec.retain, LimiterPlan.ofSpec]

private theorem ofSpec_of_losesLevel (draft : Draft LimiterSpec) (loses : draft.losesLevel = true) :
    ∃ capacity rate, LimiterPlan.ofSpec draft.spec = .leakyBucket capacity rate 0 ∧
      LimiterPlan.ofSpec (draft.spec.retain draft.keeps) =
        .leakyBucket capacity rate unlimited := by
  cases described : draft.spec with
  | leakyBucket capacity rate initial =>
    cases initial with
    | none => simp [losesLevel, described] at loses
    | some level =>
      simp only [losesLevel, described] at loses
      have negative : level.toInt < 0 := of_decide_eq_true (Bool.and_eq_true_iff.mp loses).2
      have nothing : countOf level = 0 := Int.toNat_of_nonpos (Int.le_of_lt negative)
      refine ⟨countOf capacity, spanOf rate, ?_, ?_⟩
      · rw [LimiterPlan.ofSpec, Option.map_some, nothing, Option.getD_some]
      · rw [LimiterSpec.retain, retained_level, Option.filter_some, loses]
        simp [LimiterPlan.ofSpec]
  | _ => simp [losesLevel, described] at loses

private theorem settings_retain (draft : Draft BreakerSpec) :
    (draft.spec.retain draft.keeps).settings = draft.spec.settings := by
  simp only [BreakerSpec.settings, BreakerSpec.retain, countOf_retained, spanOf_retained]

end Draft

namespace ConfigDraft

def whole (draft : ConfigDraft) : AdmissionConfig where
  limiters := draft.limiters.map (·.spec)
  circuitBreaker := draft.breaker.map (·.spec)

/-- The description with the defaults of the numbers that are left out. -/
def abridged (draft : ConfigDraft) : AdmissionConfig where
  limiters := draft.limiters.map fun limiter => limiter.spec.retain limiter.keeps
  circuitBreaker := draft.breaker.map fun breaker => breaker.spec.retain breaker.keeps

def text (draft : ConfigDraft) : String :=
  (AdmissionConfig.assemble
    (draft.limiters.map fun limiter => limiter.spec.toJsonOf limiter.keeps)
    (.ofOption (fun breaker => breaker.spec.toJsonOf breaker.keeps) draft.breaker)).text

def KeepsLevels (draft : ConfigDraft) : Prop :=
  ∀ limiter ∈ draft.limiters, limiter.losesLevel = false

private theorem parse_text (draft : ConfigDraft) :
    AdmissionConfig.parse draft.text = .ok draft.abridged := by
  have limiters : (draft.limiters.map fun limiter => limiter.spec.toJsonOf limiter.keeps).mapM
      LimiterSpec.ofJson = .ok draft.abridged.limiters := by
    have each : (LimiterSpec.ofJson ∘ fun limiter : Draft LimiterSpec =>
        limiter.spec.toJsonOf limiter.keeps) =
          fun limiter => pure (limiter.spec.retain limiter.keeps) :=
      funext fun limiter => limiter.spec.ofJson_toJsonOf limiter.keeps
    rw [List.mapM_map, each, List.mapM_pure]
    rfl
  have breaker : (Json.ofOption (fun breaker : Draft BreakerSpec =>
      breaker.spec.toJsonOf breaker.keeps) draft.breaker).toOption BreakerSpec.ofJson =
        .ok draft.abridged.circuitBreaker := by
    rw [abridged]
    cases draft.breaker with
    | none => rfl
    | some breaker =>
      exact Json.toOption_of_ne_null Json.noConfusion (breaker.spec.ofJson_toJsonOf breaker.keeps)
  refine AdmissionConfig.parse_text_of_plain (AdmissionConfig.plain_assemble ?_ ?_)
    (AdmissionConfig.ofJson_assemble limiters breaker)
  · intro json inside
    obtain ⟨limiter, -, rfl⟩ := List.mem_map.mp inside
    exact limiter.spec.plain_toJsonOf limiter.keeps 124
  · exact Json.plain_ofOption (fun breaker => breaker.spec.plain_toJsonOf breaker.keeps 125) _

end ConfigDraft

/-- The bucket that is built where time passes by itself. -/
def Bucket.started (kind : Kind) (setting : Setting) (capacity : Nat) (period : Duration)
    (initial now : Nat) : Bucket :=
  match (Bucket.new kind setting capacity period initial now true).1 with
  | .ok bucket => bucket
  | .error _ => default

def LimiterPlan.started (now : Nat) (store : Ref Store) (plan : LimiterPlan) : Limiter :=
  match plan with
  | concurrency threshold => .concurrency (Concurrency.new threshold).1
  | fixedWindow threshold window => .fixedWindow (FixedWindow.new threshold window).1 World.ownClock
  | slidingWindow .. => .slidingWindow (plan.window?.getD default) store none
  | tokenBucket capacity interval initial =>
    .tokenBucket (Bucket.started .tokenBucket .interval capacity interval initial now)
  | leakyBucket capacity rate initial =>
    .leakyBucket (Bucket.started .leakyBucket .rate capacity rate initial now)

private theorem Bucket.started_level (kind : Kind) (setting : Setting) (capacity : Nat)
    (period : Duration) (initial now : Nat) :
    (Bucket.started kind setting capacity period initial now).level =
      min initial (min (normalizeCount (.limiter kind) .capacity capacity Defaults.capacity).1
        maxDrops) :=
  rfl

private theorem LimiterPlan.started_leakyBucket_ne (now : Nat) (store : Ref Store) (capacity : Nat)
    (rate : Duration) :
    started now store (.leakyBucket capacity rate unlimited) ≠
      started now store (.leakyBucket capacity rate 0) := by
  intro same
  have level := congrArg Bucket.level (Limiter.leakyBucket.inj same)
  rw [Bucket.started_level, Bucket.started_level] at level
  have counted : 0 < (normalizeCount (.limiter .leakyBucket) .capacity capacity
      Defaults.capacity).1 := normalizeCount_pos (by decide)
  have most : 0 < maxDrops ∧ 0 < unlimited := by decide
  omega

namespace World

variable {world : World}

private theorem buildBucket_passing (world : World) (kind : Kind) (setting : Setting)
    (capacity : Nat) (period : Duration) (initial : Nat) (wrap : Bucket → Limiter) :
    (world.buildBucket kind setting capacity period initial wrap).2.hasRuntime = world.hasRuntime ∧
      (world.buildBucket kind setting capacity period initial wrap).2.now = world.now := by
  unfold buildBucket
  rcases Bucket.new kind setting capacity period initial world.now world.hasRuntime with
    ⟨_ | bucket, reports⟩
  · exact ⟨rfl, rfl⟩
  · have running := setAlarm_blind World.hasRuntime fun _ _ => rfl
    have now := setAlarm_blind World.now fun _ _ => rfl
    exact ⟨running _ _ _, now _ _ _⟩

theorem build_passing (world : World) (plan : LimiterPlan) (store : Option (Ref Store)) :
    (world.build plan store ownClock none).2.hasRuntime = world.hasRuntime ∧
      (world.build plan store ownClock none).2.now = world.now := by
  cases plan with
  | concurrency threshold => exact ⟨rfl, rfl⟩
  | fixedWindow threshold window => exact ⟨rfl, rfl⟩
  | slidingWindow threshold window policy timeout keyPrefix =>
    cases store <;> exact ⟨rfl, rfl⟩
  | tokenBucket capacity interval initial => exact buildBucket_passing ..
  | leakyBucket capacity rate initial => exact buildBucket_passing ..

private theorem buildBucket_started (running : world.hasRuntime = true) (kind : Kind)
    (setting : Setting)
    (capacity : Nat) (period : Duration) (initial : Nat) (wrap : Bucket → Limiter) :
    ∃ limiter after,
      world.buildBucket kind setting capacity period initial wrap = (.ok limiter, after) ∧
      after.limiters.get limiter =
        wrap (Bucket.started kind setting capacity period initial world.now) := by
  have made : (Bucket.new kind setting capacity period initial world.now world.hasRuntime).1 =
      .ok (Bucket.started kind setting capacity period initial world.now) := by
    rw [running]
    rfl
  unfold buildBucket
  rcases whole : Bucket.new kind setting capacity period initial world.now world.hasRuntime with
    ⟨bucket, reports⟩
  rw [whole] at made
  obtain rfl : bucket = _ := made
  refine ⟨_, _, rfl, ?_⟩
  rw [scheduleFill, setAlarm_blind World.limiters fun _ _ => rfl]
  exact Table.get_add_self _ _

private theorem build_started (running : world.hasRuntime = true) (store : Ref Store)
    (plan : LimiterPlan) :
    ∃ limiter after, world.build plan (some store) ownClock none = (.ok limiter, after) ∧
      after.limiters.get limiter = plan.started world.now store := by
  cases plan with
  | concurrency threshold => exact ⟨_, _, rfl, Table.get_add_self _ _⟩
  | fixedWindow threshold window => exact ⟨_, _, rfl, Table.get_add_self _ _⟩
  | slidingWindow threshold window policy timeout keyPrefix =>
    exact ⟨_, _, rfl, Table.get_add_self _ _⟩
  | tokenBucket capacity interval initial => exact buildBucket_started running ..
  | leakyBucket capacity rate initial => exact buildBucket_started running ..

private theorem buildAll_started (running : world.hasRuntime = true) (store : Ref Store)
    (specs : List LimiterSpec) :
    ∃ limiters after, world.buildAll (some store) specs = (.ok limiters, after) ∧
      limiters.map after.limiters.get =
        specs.map fun spec => (LimiterPlan.ofSpec spec).started world.now store := by
  induction specs generalizing world with
  | nil => exact ⟨[], world, rfl, rfl⟩
  | cons spec rest ih =>
    obtain ⟨limiter, middle, built, first⟩ := build_started running store (.ofSpec spec)
    obtain ⟨still, now⟩ := world.build_passing (.ofSpec spec) (some store)
    rw [built] at still now
    obtain ⟨limiters, after, all, others⟩ := ih (still.trans running)
    refine ⟨limiter :: limiters, after, ?_, ?_⟩
    · simp only [buildAll, built, all, Except.map]
    · have added := build_adds built
      have inside : limiter.index < middle.limiters.size := by
        rw [added.place, added.size]
        exact Nat.lt_succ_self _
      rw [List.map_cons, List.map_cons, (buildAll_adds all).earlier limiter inside, first, others,
        now]

/-- The limiters of the stack that is built for a description. -/
def started (world : World) (config : AdmissionConfig) (store : Option (Ref Store)) :
    Option (List Limiter) :=
  match world.buildStack config store with
  | (.ok stack, after) => some (stack.limiters.map after.limiters.get)
  | (.error _, _) => none

private theorem started_eq (running : world.hasRuntime = true) (config : AdmissionConfig)
    (store : Ref Store) :
    world.started config (some store) =
      some (config.limiters.map fun spec => (LimiterPlan.ofSpec spec).started world.now store) := by
  obtain ⟨limiters, middle, all, objects⟩ := buildAll_started running store config.limiters
  rw [← objects, started]
  rcases built : world.buildStack config (some store) with ⟨_ | stack, after⟩
  · simp [buildStack, all] at built
  · obtain ⟨other, again, limiters', -⟩ := buildStack_limiters built
    rw [all, Prod.mk.injEq, Except.ok.injEq] at again
    obtain ⟨same, rfl⟩ := again
    simp only [limiters', same]

/-- Plans that differ in a level only are built alike where no bucket can be built. -/
theorem buildBucket_stopped (stopped : world.hasRuntime = false) (kind : Kind) (setting : Setting)
    (capacity : Nat) (period : Duration) (initial other : Nat) (wrap : Bucket → Limiter) :
    world.buildBucket kind setting capacity period initial wrap =
      world.buildBucket kind setting capacity period other wrap := by
  simp only [buildBucket, Bucket.new, stopped, Bool.false_eq_true, if_false]

private theorem build_retain (draft : Draft LimiterSpec)
    (alike : world.hasRuntime = false ∨ draft.losesLevel = false) (store : Option (Ref Store)) :
    world.build (.ofSpec (draft.spec.retain draft.keeps)) store ownClock none =
      world.build (.ofSpec draft.spec) store ownClock none := by
  cases loses : draft.losesLevel with
  | false => rw [draft.ofSpec_retain loses]
  | true =>
    have stopped : world.hasRuntime = false := alike.resolve_right (by simp [loses])
    obtain ⟨capacity, rate, whole, abridged⟩ := draft.ofSpec_of_losesLevel loses
    rw [whole, abridged]
    exact buildBucket_stopped stopped ..

private theorem buildAll_retain (drafts : List (Draft LimiterSpec))
    (alike : world.hasRuntime = false ∨ ∀ limiter ∈ drafts, limiter.losesLevel = false)
    (store : Option (Ref Store)) :
    world.buildAll store (drafts.map fun limiter => limiter.spec.retain limiter.keeps) =
      world.buildAll store (drafts.map (·.spec)) := by
  induction drafts generalizing world with
  | nil => rfl
  | cons draft drafts ih =>
    have first : world.hasRuntime = false ∨ draft.losesLevel = false :=
      alike.imp_right fun kept => kept draft List.mem_cons_self
    have others : world.hasRuntime = false ∨ ∀ limiter ∈ drafts, limiter.losesLevel = false :=
      alike.imp_right fun kept limiter inside => kept limiter (List.mem_cons_of_mem _ inside)
    rw [List.map_cons, List.map_cons, buildAll, buildAll, build_retain draft first store]
    rcases built : world.build (.ofSpec draft.spec) store ownClock none with ⟨_ | limiter, middle⟩
    · rfl
    · have still := (world.build_passing (.ofSpec draft.spec) store).1
      rw [built] at still
      simp only [ih (others.imp_left still.trans)]

private theorem buildStack_abridged (draft : ConfigDraft)
    (alike : world.hasRuntime = false ∨ draft.KeepsLevels) (store : Option (Ref Store)) :
    world.buildStack draft.abridged store = world.buildStack draft.whole store := by
  have limiters : world.buildAll store draft.abridged.limiters =
      world.buildAll store draft.whole.limiters := buildAll_retain draft.limiters alike store
  rw [buildStack, buildStack, limiters]
  cases breaker : draft.breaker with
  | none => simp only [ConfigDraft.abridged, ConfigDraft.whole, breaker, Option.map_none]
  | some breaker' =>
    simp only [ConfigDraft.abridged, ConfigDraft.whole, breaker, Option.map_some,
      breaker'.settings_retain]

/-- Whatever negative numbers are left out of a text, the stack that is built is the same, unless a
leaky bucket loses the level at which it starts. Then already the limiters are not the same. -/
theorem buildStack_abridged_iff (world : World) (draft : ConfigDraft) :
    AdmissionConfig.parse draft.text = .ok draft.abridged ∧
      ((∀ store, world.buildStack draft.abridged store = world.buildStack draft.whole store) ↔
        world.hasRuntime = false ∨ draft.KeepsLevels) ∧
      ((∀ store, world.started draft.abridged store = world.started draft.whole store) ↔
        world.hasRuntime = false ∨ draft.KeepsLevels) := by
  have differ
      (same : ∀ store, world.started draft.abridged store = world.started draft.whole store) :
      world.hasRuntime = false ∨ draft.KeepsLevels := by
    cases running : world.hasRuntime with
    | false => exact .inl rfl
    | true =>
      refine .inr fun limiter inside => Bool.eq_false_iff.mpr fun loses => ?_
      have alike := same (some default)
      rw [started_eq running, started_eq running, Option.some.injEq, ConfigDraft.abridged,
        ConfigDraft.whole, List.map_map, List.map_map] at alike
      have one := List.map_inj_left.mp alike limiter inside
      obtain ⟨capacity, rate, whole, abridged⟩ := limiter.ofSpec_of_losesLevel loses
      simp only [Function.comp_apply, whole, abridged] at one
      exact LimiterPlan.started_leakyBucket_ne _ _ _ _ one
  refine ⟨draft.parse_text, ⟨fun same => differ fun store => ?_, fun alike store => ?_⟩,
    ⟨differ, fun alike store => ?_⟩⟩
  · rw [started, started, same store]
  · exact buildStack_abridged draft alike store
  · rw [started, started, buildStack_abridged draft alike store]

def firstDecision (world : World) (config : AdmissionConfig) (context : Context) :
    Option Decision :=
  match world.buildStack config none with
  | (.ok stack, after) =>
    stack.limiters.head?.map fun limiter => (after.decisionOf limiter context).1
  | (.error _, _) => none

/-- A leaky bucket with a negative level refuses the first request of all, which it grants if the
level is left out. -/
theorem negative_level_refuses :
    let draft : ConfigDraft := { limiters := [⟨.leakyBucket 2 100 (some (-1)), fun _ => true⟩] }
    draft.abridged = { limiters := [.leakyBucket 2 100 none] } ∧
      AdmissionConfig.parse draft.text = .ok draft.abridged ∧
      initial.firstDecision draft.abridged {} = some .granted ∧
      initial.firstDecision draft.whole {} =
        some (.refuseFor .bucketEmpty (.ofMillis 100)) := by
  refine ⟨by decide, ConfigDraft.parse_text _, by decide, by decide⟩

end World

end AdmissionControl
