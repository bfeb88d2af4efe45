import AdmissionControl.Proofs.Pipeline.Passing
import AdmissionControl.World.Building

namespace AdmissionControl

def LimiterPlan.window? : LimiterPlan → Option SlidingWindow
  | .slidingWindow threshold window policy timeout keyPrefix =>
    let limiter := { (SlidingWindow.new threshold window).1 with policy }.withTimeout timeout
    some { limiter with keyPrefix := keyPrefix.getD limiter.keyPrefix }
  | _ => none

def LimiterSpec.window? (spec : LimiterSpec) : Option SlidingWindow :=
  (LimiterPlan.ofSpec spec).window?

theorem Duration.nanosPerMilli_pos : 0 < Duration.nanosPerMilli := by
  simp [Duration.nanosPerMilli]

theorem Duration.wholeMillis_ofMillis {millis : Nat} (short : millis ≤ lastMilli) :
    (Duration.ofMillis millis).wholeMillis = millis := by
  unfold Duration.wholeMillis Duration.ofMillis
  rw [Nat.mul_div_cancel millis Duration.nanosPerMilli_pos, Nat.min_eq_left short]

private theorem Duration.isZero_ofMillis {millis : Nat} (long : 0 < millis) :
    (Duration.ofMillis millis).isZero = false := by
  unfold Duration.isZero Duration.ofMillis
  rw [beq_eq_false_iff_ne]
  exact Nat.ne_of_gt (Nat.mul_pos long Duration.nanosPerMilli_pos)

theorem normalizeCount_positive {part : Part} {setting : Setting} {value default : Nat}
    (positive : 0 < value) : (normalizeCount part setting value default).1 = value := by
  rw [normalizeCount, if_neg (Nat.ne_of_gt positive)]

theorem normalizeDuration_positive {part : Part} {setting : Setting} {value default : Duration}
    (positive : value.isZero = false) :
    (normalizeDuration part setting value default).1 = value := by
  simp [normalizeDuration, positive]

theorem SlidingWindow.new_positive {threshold : Nat} {window : Duration} (counted : 0 < threshold)
    (long : window.isZero = false) :
    (SlidingWindow.new threshold window).1 = { threshold, window } := by
  simp only [SlidingWindow.new, normalizeCount_positive counted, normalizeDuration_positive long]

theorem toNat_pos {value : Int64} (positive : 0 < value) : 0 < value.toInt.toNat := by
  have := Int64.lt_iff_toInt_lt.mp positive
  rw [Int64.toInt_zero] at this
  omega

theorem toNat_le_lastMilli (value : Int64) : value.toInt.toNat ≤ lastMilli := by
  have := value.toInt_lt
  have : lastMilli = 2 ^ 64 - 1 := rfl
  omega

private theorem LimiterPlan.window?_positive {threshold : Nat} {window timeout : Duration}
    {policy : FailurePolicy} {keyPrefix : Option String} (counted : 0 < threshold)
    (long : window.isZero = false) :
    (LimiterPlan.slidingWindow threshold window policy timeout keyPrefix).window? =
      some {
        threshold
        window
        policy
        keyPrefix := keyPrefix.getD "turnstile:sw:"
        timeout := if timeout.isZero then none else some timeout } := by
  simp only [LimiterPlan.window?, SlidingWindow.withTimeout,
    SlidingWindow.new_positive counted long]

theorem LimiterSpec.window?_positive {threshold window timeout : Int64} {policy : FailurePolicy}
    {keyPrefix : Option String} (counted : 0 < threshold) (long : 0 < window) :
    ∃ limiter, (LimiterSpec.slidingWindow threshold window policy timeout keyPrefix).window? =
        some limiter ∧
      limiter.threshold = threshold.toInt.toNat ∧ limiter.window.wholeMillis = window.toInt.toNat ∧
      limiter.keyPrefix = keyPrefix.getD "turnstile:sw:" :=
  ⟨_, LimiterPlan.window?_positive (toNat_pos counted) (Duration.isZero_ofMillis (toNat_pos long)),
    rfl, Duration.wholeMillis_ofMillis (toNat_le_lastMilli window), rfl⟩

namespace World

variable {world after : World} {store : Ref Store} {limiter : Ref Limiter}

/-- A limiter that is built is put behind all others. A sliding window has the store. -/
structure Adds (store : Ref Store) (world after : World) (window : Option SlidingWindow)
    (limiter : Ref Limiter) : Prop where
  place : limiter.index = world.limiters.size
  earlier : ∀ other, other.index < world.limiters.size →
    after.limiters.get other = world.limiters.get other
  size : after.limiters.size = world.limiters.size + 1
  window : (after.limiters.get limiter).window? = window.map (·, store, none)
  stores : after.stores = world.stores

private theorem Adds.of_add {object : Limiter} {window : Option SlidingWindow}
    (added : (limiter, after.limiters) = world.limiters.add object)
    (sliding : object.window? = window.map (·, store, none)) (stores : after.stores = world.stores) :
    Adds store world after window limiter := by
  have same : limiter = (world.limiters.add object).1 := congrArg Prod.fst added
  have whole : after.limiters = (world.limiters.add object).2 := congrArg Prod.snd added
  refine ⟨by rw [same]; rfl, ?_, ?_, ?_, stores⟩
  · intro other inside
    rw [whole, Table.get_add_of_lt _ _ inside]
  · rw [whole]
    exact Array.size_push _
  · rw [whole, same, Table.get_add_self, sliding]

private theorem buildBucket_adds {kind : Kind} {setting : Setting} {capacity initial : Nat}
    {period : Duration} {wrap : Bucket → Limiter} (plain : ∀ bucket, (wrap bucket).window? = none)
    (built : world.buildBucket kind setting capacity period initial wrap = (.ok limiter, after)) :
    Adds store world after none limiter := by
  simp only [buildBucket] at built
  split at built
  · next bucket _ =>
    cases built
    have limiters := setAlarm_blind World.limiters fun _ _ => rfl
    have stores := setAlarm_blind World.stores fun _ _ => rfl
    exact .of_add (Prod.ext rfl (limiters _ _ _)) (plain bucket) (stores _ _ _)
  · cases built

theorem build_adds {plan : LimiterPlan}
    (built : world.build plan (some store) ownClock none = (.ok limiter, after)) :
    Adds store world after plan.window? limiter := by
  cases plan with
  | concurrency threshold => cases built; exact .of_add rfl rfl rfl
  | fixedWindow threshold window => cases built; exact .of_add rfl rfl rfl
  | slidingWindow threshold window policy timeout keyPrefix => cases built; exact .of_add rfl rfl rfl
  | tokenBucket capacity interval initial => exact buildBucket_adds (fun _ => rfl) built
  | leakyBucket capacity rate initial => exact buildBucket_adds (fun _ => rfl) built

structure AddsAll (store : Ref Store) (world after : World) (specs : List LimiterSpec)
    (limiters : List (Ref Limiter)) : Prop where
  earlier : ∀ other, other.index < world.limiters.size →
    after.limiters.get other = world.limiters.get other
  windows : limiters.map (fun limiter => (after.limiters.get limiter).window?) =
    specs.map fun spec => spec.window?.map (·, store, none)
  stores : after.stores = world.stores

theorem buildAll_adds {specs : List LimiterSpec} {limiters : List (Ref Limiter)}
    (built : world.buildAll (some store) specs = (.ok limiters, after)) :
    AddsAll store world after specs limiters := by
  induction specs generalizing world limiters with
  | nil =>
    cases built
    exact ⟨fun _ _ => rfl, rfl, rfl⟩
  | cons spec rest ih =>
    simp only [buildAll] at built
    split at built
    · cases built
    · next limiter middle first =>
      have added := build_adds first
      cases others : middle.buildAll (some store) rest with
      | mk result last =>
      cases result with
      | error error => simp [others, Except.map] at built
      | ok refs =>
        simp only [others, Except.map, Prod.mk.injEq, Except.ok.injEq] at built
        obtain ⟨rfl, rfl⟩ := built
        obtain ⟨earlier, windows, stores⟩ := ih others
        refine ⟨?_, ?_, stores.trans added.stores⟩
        · intro other inside
          rw [earlier other (by rw [added.size]; omega), added.earlier other inside]
        · have inside : limiter.index < middle.limiters.size := by
            rw [added.place, added.size]
            omega
          rw [List.map_cons, List.map_cons, windows, earlier limiter inside]
          exact congrArg (· :: _) added.window

theorem buildBreaker_tables (world : World) (settings : BreakerSettings × List Event)
    (clock : Ref Clock) (blameless : List String) :
    (world.buildBreaker settings clock blameless).2.limiters = world.limiters ∧
      (world.buildBreaker settings clock blameless).2.stores = world.stores :=
  ⟨rfl, rfl⟩

theorem record_tables (world : World) (events : List Event) :
    (world.record events).limiters = world.limiters ∧
      (world.record events).stores = world.stores :=
  ⟨rfl, rfl⟩

theorem buildStack_limiters {config : AdmissionConfig} {stack : Stack}
    (built : world.buildStack config (some store) = (.ok stack, after)) :
    ∃ middle, world.buildAll (some store) config.limiters = (.ok stack.limiters, middle) ∧
      after.limiters = middle.limiters ∧ after.stores = middle.stores := by
  simp only [buildStack] at built
  split at built
  · cases built
  · next limiters middle all =>
    cases breaker : config.circuitBreaker with
    | none =>
      simp only [breaker, Prod.mk.injEq, Except.ok.injEq] at built
      obtain ⟨rfl, rfl⟩ := built
      exact ⟨middle, all, rfl, rfl⟩
    | some spec =>
      obtain ⟨limiters', stores'⟩ := middle.buildBreaker_tables spec.settings ownClock []
      simp only [breaker, Prod.mk.injEq, Except.ok.injEq] at built
      obtain ⟨rfl, rfl⟩ := built
      exact ⟨middle, all, (record_tables _ _).1.trans limiters', (record_tables _ _).2.trans stores'⟩

theorem buildStack_adds {config : AdmissionConfig} {stack : Stack}
    (built : world.buildStack config (some store) = (.ok stack, after)) :
    AddsAll store world after config.limiters stack.limiters := by
  obtain ⟨middle, all, limiters, stores⟩ := buildStack_limiters built
  obtain ⟨earlier, windows, same⟩ := buildAll_adds all
  rw [← limiters] at earlier windows
  exact ⟨earlier, windows, stores.trans same⟩

private theorem build_window (world : World) (store : Ref Store) {plan : LimiterPlan}
    {window : SlidingWindow} (sliding : plan.window? = some window) :
    ∃ limiter after, world.build plan (some store) ownClock none = (.ok limiter, after) ∧
      after.clocks = world.clocks := by
  cases plan with
  | slidingWindow threshold window policy timeout keyPrefix => exact ⟨_, _, rfl, rfl⟩
  | _ => cases sliding

private theorem buildAll_windows {specs : List LimiterSpec}
    (sliding : ∀ spec ∈ specs, ∃ window, spec.window? = some window) (world : World)
    (store : Ref Store) :
    ∃ limiters after, world.buildAll (some store) specs = (.ok limiters, after) ∧
      after.clocks = world.clocks := by
  induction specs generalizing world with
  | nil => exact ⟨[], world, rfl, rfl⟩
  | cons spec rest ih =>
    rw [List.forall_mem_cons] at sliding
    obtain ⟨⟨window, first⟩, others⟩ := sliding
    obtain ⟨limiter, middle, built, same⟩ := world.build_window store first
    obtain ⟨limiters, after, built_all, clocks⟩ := ih others middle
    refine ⟨limiter :: limiters, after, ?_, clocks.trans same⟩
    simp only [buildAll, built, built_all, Except.map]

theorem buildStack_windows {specs : List LimiterSpec}
    (sliding : ∀ spec ∈ specs, ∃ window, spec.window? = some window) (world : World)
    (store : Ref Store) :
    ∃ limiters after, world.buildStack { limiters := specs } (some store) =
        (.ok { limiters }, after) ∧ after.clocks = world.clocks := by
  obtain ⟨limiters, after, built, clocks⟩ := buildAll_windows sliding world store
  refine ⟨limiters, after.record [.stackBuilt limiters.length false], ?_, clocks⟩
  simp only [buildStack, built]
  rfl

end World

end AdmissionControl
