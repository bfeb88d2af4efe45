import AdmissionControl.Proofs.Pipeline.Building
import AdmissionControl.Proofs.Pipeline.Executions
import Mathlib.Data.Set.Insert

namespace AdmissionControl

/-- All that matters to other sliding windows of the same store: the prefix with which the keys
begin, and for how many milliseconds their events are kept. -/
structure Shape where
  keyPrefix : String
  window : Int64
  positive : 0 < window

/-- The two windows may use the same key of the store, be it for two requests. -/
def Shape.Meets (shape other : Shape) : Prop :=
  ∃ key otherKey, shape.keyPrefix ++ key = other.keyPrefix ++ otherKey

/-- The shortest window that counts for a key of the shape's. Other keys may have any. -/
def Shape.bound (shape : Shape) (key used : String) : Nat :=
  if used = shape.keyPrefix ++ key then shape.window.toInt.toNat else 0

/-- A sliding window with a shape and a positive threshold. -/
def LimiterSpec.IsWindow (spec : LimiterSpec) (threshold : Int64) (shape : Shape) : Prop :=
  0 < threshold ∧ ∃ policy timeout keyPrefix,
    spec = .slidingWindow threshold shape.window policy timeout keyPrefix ∧
      keyPrefix.getD "turnstile:sw:" = shape.keyPrefix

namespace AdmissionConfig

/-- All sliding windows have positive thresholds and shapes from a set. -/
def Within (shapes : Set Shape) (config : AdmissionConfig) : Prop :=
  ∀ spec ∈ config.limiters, spec.kind = .slidingWindow →
    ∃ threshold, ∃ shape ∈ shapes, spec.IsWindow threshold shape

/-- Whatever requests come to the stack that is built over a new store, while its clock stays before
a moment, a stage lets no more of them through than a threshold within any window. -/
def KeepsLimit (config : AdmissionConfig) (limit place threshold window : Nat) : Prop :=
  ∀ (world built : World) (ref : Ref Store) (clock : Ref Clock) (stack : Stack),
    world.stores.get ref = .memory {} clock →
    world.buildStack config (some ref) = (.ok stack, built) →
    ∀ executions key, built.Run ref clock limit stack executions →
      Spaced threshold window (passages stack clock place key executions)

end AdmissionConfig

variable {shape other : Shape} {shapes others : Set Shape} {config : AdmissionConfig}
  {threshold : Int64} {spec : LimiterSpec} {place : Nat}

theorem LimiterSpec.IsWindow.built (sliding : spec.IsWindow threshold shape) :
    ∃ limiter, spec.window? = some limiter ∧ limiter.threshold = threshold.toInt.toNat ∧
      limiter.window.wholeMillis = shape.window.toInt.toNat ∧
      limiter.keyPrefix = shape.keyPrefix := by
  obtain ⟨counted, policy, timeout, keyPrefix, rfl, same⟩ := sliding
  rw [← same]
  exact LimiterSpec.window?_positive counted shape.positive

private theorem LimiterSpec.kind_of_window? {limiter : SlidingWindow}
    (built : spec.window? = some limiter) :
    spec.kind = .slidingWindow := by
  cases spec with
  | slidingWindow => rfl
  | _ => cases built

private theorem toNat_mono {value other : Int64} (below : value ≤ other) :
    value.toInt.toNat ≤ other.toInt.toNat :=
  Int.toNat_le_toNat (Int64.le_iff_toInt_le.mp below)

/-- Every stage of a stack uses the one store, and none of them uses a key of the shape's with a
window that is shorter than the shape's. -/
theorem AdmissionConfig.Within.suits {world built : World} {ref : Ref Store} {stack : Stack}
    (within : config.Within (insert shape others))
    (longer : ∀ other ∈ others, shape.Meets other → shape.window ≤ other.window)
    (adds : World.AddsAll ref world built config.limiters stack.limiters) (key : String)
    (context : Context) :
    ∀ stage ∈ Pipeline.stackStages context stack, built.Suits (shape.bound key) ref stage := by
  intro stage member
  rcases List.mem_append.mp member with limited | broken
  · obtain ⟨limiter, inside, rfl⟩ := List.mem_map.mp limited
    intro window store clock listed
    have placed :=
      List.mem_map_of_mem (f := fun limiter => (built.limiters.get limiter).window?) inside
    rw [adds.windows] at placed
    obtain ⟨spec, described, same⟩ := List.mem_map.mp placed
    rw [listed, Option.map_eq_some_iff] at same
    obtain ⟨window, asked, same⟩ := same
    cases same
    refine ⟨rfl, rfl, ?_⟩
    obtain ⟨threshold, found, allowed, sliding⟩ :=
      within spec described (LimiterSpec.kind_of_window? asked)
    obtain ⟨limiter, made, _, whole, keyPrefix⟩ := sliding.built
    cases asked.symm.trans made
    rw [whole, Shape.bound]
    split
    · next met =>
      rw [World.windowKey, keyPrefix] at met
      rcases allowed with rfl | allowed
      · exact Nat.le_refl _
      · exact toNat_mono (longer found allowed ⟨key, _, met.symm⟩)
    · exact Nat.zero_le _
  · obtain ⟨circuit, _, rfl⟩ := List.mem_map.mp broken
    trivial

/-- A stage keeps its limit if no window that its own may meet is shorter. -/
theorem AdmissionConfig.keepsLimit_of_longer (within : config.Within (insert shape others))
    (found : config.limiters[place]? = some spec) (sliding : spec.IsWindow threshold shape)
    (longer : ∀ other ∈ others, shape.Meets other → shape.window ≤ other.window) :
    config.KeepsLimit lastMilli place threshold.toInt.toNat shape.window.toInt.toNat := by
  intro world built ref clock stack fresh stacked executions key run
  have adds := World.buildStack_adds stacked
  obtain ⟨window, made, counted, whole, keyPrefix⟩ := sliding.built
  obtain ⟨limiter, placed, listed⟩ : ∃ limiter, stack.limiters[place]? = some limiter ∧
      (built.limiters.get limiter).window? = some (window, ref, none) := by
    have same := congrArg (·[place]?) adds.windows
    simpa [found, made] using same
  have spaced := World.run_spaced (Tracks.new _) ((congrArg (·.get ref) adds.stores).trans fresh)
    (Nat.zero_le _) (within.suits longer adds key) placed listed
    (by rw [Shape.bound, keyPrefix, if_pos rfl, whole]) run (List.nil_sublist _) (by simp [Spaced])
  rw [counted, whole] at spaced
  exact spaced

end AdmissionControl
