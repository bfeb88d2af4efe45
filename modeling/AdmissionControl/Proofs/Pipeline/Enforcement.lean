import AdmissionControl.Proofs.Pipeline.Overrun
import Mathlib.Data.List.Basic
import Mathlib.Data.List.TakeWhile

namespace AdmissionControl

namespace MemoryStore

variable {store : MemoryStore} {first second : SlidingWindow} {call : Nat × String}
  {key otherKey : String} {count now : Nat}

/-- No more than so many events are kept for a key. -/
structure Light (key : String) (count : Nat) (store : MemoryStore) : Prop where
  distinct : (store.keys.map KeyEvents.key).Nodup
  few : (store.events key).length ≤ count

private theorem Light.room (light : store.Light (first.keyPrefix ++ key) count)
    (below : count < first.threshold) (now : Nat) :
    (store.recordIfBelow (first.request key none) now).1 = true := by
  have found := (@kept_sublist store (first.request key none) now light.distinct).length_le
  rw [recordIfBelow_fst, decide_eq_true_iff]
  exact Nat.lt_of_le_of_lt found (Nat.lt_of_le_of_lt light.few below)

/-- Two windows add at most one event to a key if the second has no room for more than one. -/
theorem Light.twice (light : store.Light key count) (first : SlidingWindow)
    (single : second.threshold = 1) (call : Nat × String) :
    (store.twice first second call).Light key (count + 1) := by
  have distinct := distinct_record light.distinct (first.request call.2 none) call.1
  have few := (events_record light.distinct (first.request call.2 none) call.1 key).length_le
  rw [List.length_append, List.length_singleton] at few
  refine ⟨distinct_record distinct _ _, events_record_le distinct _ ?_ ?_⟩
  · exact Nat.le_trans (Nat.le_of_eq single) (Nat.le_add_left 1 count)
  · exact Nat.le_trans few (Nat.add_le_add_right light.few 1)

private theorem Light.mem_twice (light : store.Light key count) {event : Nat}
    (member : event ∈ (store.twice first second call).events key) :
    event ∈ store.events key ∨ event = call.1 := by
  have distinct := distinct_record light.distinct (first.request call.2 none) call.1
  have later := (events_record distinct (second.request call.2 none) call.1 key).subset member
  rcases List.mem_append.mp later with between | added
  · have earlier :=
      (events_record light.distinct (first.request call.2 none) call.1 key).subset between
    rcases List.mem_append.mp earlier with before | added
    · exact .inl before
    · exact .inr (List.mem_singleton.mp added)
  · exact .inr (List.mem_singleton.mp added)

private theorem Light.twice_dropped (call : Nat × String)
    (light : store.Light (second.keyPrefix ++ call.2) count) (first : SlidingWindow)
    (single : second.threshold = 1)
    (gone : ∀ event ∈ store.events (second.keyPrefix ++ call.2),
      KeyEvents.left second.window.wholeMillis call.1 event = true) :
    (store.twice first second call).Light (second.keyPrefix ++ call.2) 1 := by
  have distinct := distinct_record light.distinct (first.request call.2 none) call.1
  refine ⟨distinct_record distinct _ _, ?_⟩
  have between := events_record light.distinct (first.request call.2 none) call.1
    (second.request call.2 none).key
  have kept := @kept_length_le _ (second.request call.2 none) call.1 _ _ distinct between gone
  have left := recordIfBelow_events (store.recordIfBelow (first.request call.2 none) call.1).2.1
    (second.request call.2 none) call.1
  have limited : (second.request call.2 none).threshold = 1 := single
  change (((store.recordIfBelow (first.request call.2 none) call.1).2.1.recordIfBelow
    (second.request call.2 none) call.1).2.1.events (second.request call.2 none).key).length ≤ 1
  rw [left, limited, List.length_append]
  split
  · rw [List.length_singleton]
    omega
  · exact kept

/-- The first window has room for two requests, and for two more when the second one has forgotten
them, though for the first window they are not yet over. -/
theorem hasRoom_shorter (three : first.threshold = 3) (single : second.threshold = 1)
    (shown : second.window.wholeMillis < lastMilli)
    (met : first.keyPrefix ++ key = second.keyPrefix ++ otherKey) :
    let later := second.window.wholeMillis
    ({} : MemoryStore).HasRoom first second
      [(0, key), (0, key), (later, otherKey), (later, key), (later, key)] := by
  intro later
  have new (used : String) : ({} : MemoryStore).Light used 0 := ⟨List.nodup_nil, Nat.le_refl 0⟩
  have once (used : String) := (new used).twice first single (0, key)
  have again (used : String) := (once used).twice first single (0, key)
  have gone : ∀ event ∈ ((({} : MemoryStore).twice first second (0, key)).twice first second
      (0, key)).events (second.keyPrefix ++ otherKey), KeyEvents.left later later event = true := by
    intro event member
    have start : event = 0 := by
      rcases (once _).mem_twice member with earlier | same
      · rcases (new _).mem_twice earlier with before | same
        · cases before
        · exact same
      · exact same
    rw [start]
    exact (KeyEvents.left_iff shown).mpr (Nat.le_of_eq (Nat.zero_add later))
  have dropped := Light.twice_dropped (later, otherKey) (again _) first single gone
  rw [← met] at dropped
  have lighter := dropped.twice first single (later, key)
  refine ⟨(new _).room ?_ _, (once _).room ?_ _, (again _).room ?_ _, dropped.room ?_ _,
    lighter.room ?_ _, trivial⟩ <;>
  · rw [three]
    decide

/-- At the last moment of a clock all sums overflow, and a window holds nothing. -/
theorem room_last (store : MemoryStore) (counted : 0 < first.threshold) (key : String) :
    (store.recordIfBelow (first.request key none) lastMilli).1 = true := by
  have empty : store.kept (first.request key none) lastMilli = [] := by
    rw [kept, List.dropWhile_eq_nil_iff]
    intro event _
    rw [KeyEvents.left, addMillis, decide_eq_true_iff]
    exact Nat.min_le_right _ _
  rw [recordIfBelow_fst, empty, decide_eq_true_iff]
  exact counted

end MemoryStore

def Shape.spec (shape : Shape) (threshold : Int64) : LimiterSpec :=
  .slidingWindow threshold shape.window .failClosed 0 (some shape.keyPrefix)

private theorem Shape.spec_isWindow (shape : Shape) {threshold : Int64} (counted : 0 < threshold) :
    (shape.spec threshold).IsWindow threshold shape :=
  ⟨counted, .failClosed, 0, some shape.keyPrefix, rfl, rfl⟩

namespace World

/-- A world with a new store in memory whose clock has not moved. -/
def withStore : World := { initial with stores := ⟨#[.memory {} ownClock]⟩ }

private theorem paired_of_specs {opening closing : LimiterSpec} {first second : SlidingWindow}
    (one_made : opening.window? = some first) (two_made : closing.window? = some second) :
    ∃ one two built, withStore.buildStack { limiters := [opening, closing] } (some ⟨0⟩) =
        (.ok { limiters := [one, two] }, built) ∧
      Paired ⟨0⟩ ownClock one two first second built {} ∧
      (built.clocks.get ownClock).now = 0 := by
  have sliding : ∀ spec ∈ [opening, closing], ∃ window, spec.window? = some window := by
    simp [one_made, two_made]
  obtain ⟨limiters, built, stacked, clocks⟩ := buildStack_windows sliding withStore ⟨0⟩
  obtain ⟨-, windows, stores⟩ := buildStack_adds stacked
  obtain ⟨one, two, rfl⟩ : ∃ one two, limiters = [one, two] :=
    List.length_eq_two.mp (by simpa using congrArg List.length windows)
  simp only [List.map_cons, List.map_nil, one_made, two_made, List.cons.injEq, and_true,
    Option.map_some] at windows
  refine ⟨one, two, built, stacked, ⟨?_, windows.1, windows.2⟩, ?_⟩
  · rw [stores]
    rfl
  · rw [clocks]
    rfl

end World

private theorem Spaced.length_le {threshold window : Nat} {moments : List Nat}
    (spaced : Spaced threshold window moments) (finish : Nat)
    (inside : ∀ moment ∈ moments, moment ≤ finish ∧ finish < moment + window) :
    moments.length ≤ threshold := by
  have whole := spaced finish
  rw [List.filter_eq_self.mpr fun moment member => decide_eq_true (inside moment member)] at whole
  exact whole

private theorem toNat_strictMono {value other : Int64} (positive : 0 < value)
    (below : value < other) :
    value.toInt.toNat < other.toInt.toNat := by
  have := Int64.lt_iff_toInt_lt.mp positive
  have := Int64.lt_iff_toInt_lt.mp below
  rw [Int64.toInt_zero] at *
  omega

variable {shape other : Shape} {others : Set Shape}

/-- Where a shorter window may meet its own, a stage does not keep its limit. -/
theorem not_keepsLimit_of_shorter (met : shape.Meets other)
    (shorter : other.window < shape.window) :
    ¬ ({ limiters := [shape.spec 3, other.spec 1] } : AdmissionConfig).KeepsLimit lastMilli 0 3
      shape.window.toInt.toNat := by
  intro keeps
  obtain ⟨key, otherKey, met⟩ := met
  have three_counted : (0 : Int64) < 3 := by decide
  have one_counted : (0 : Int64) < 1 := by decide
  obtain ⟨first, one_made, three, long, keyPrefix⟩ := (shape.spec_isWindow three_counted).built
  obtain ⟨second, two_made, single, short, otherPrefix⟩ := (other.spec_isWindow one_counted).built
  obtain ⟨one, two, built, stacked, paired, started⟩ := World.paired_of_specs one_made two_made
  have earlier := toNat_strictMono other.positive shorter
  have shown : second.window.wholeMillis < lastMilli := by
    rw [short]
    exact Nat.lt_of_lt_of_le earlier (toNat_le_lastMilli shape.window)
  have room := MemoryStore.hasRoom_shorter three single shown (by rw [keyPrefix, otherPrefix, met])
  obtain ⟨run, passed⟩ := @World.Paired.run _ _ _ _ _ _ _ _ lastMilli key _ paired room
    (by simp [started]) (by simp [shown, Nat.zero_lt_of_lt shown])
  have spaced := keeps World.withStore built ⟨0⟩ World.ownClock _ rfl stacked _ key run
  rw [passed] at spaced
  have few : _ ≤ 3 := spaced.length_le second.window.wholeMillis ?_
  · by_cases same : otherKey = key <;> simp [same] at few
  · intro moment member
    rw [List.mem_map] at member
    obtain ⟨call, called, rfl⟩ := member
    have listed := List.mem_of_mem_filter called
    simp only [List.mem_cons, List.not_mem_nil, or_false] at listed
    rw [short]
    rcases listed with rfl | rfl | rfl | rfl | rfl <;> simp only [short] <;> omega

private theorem not_keepsLimit_at_last (shape : Shape) :
    ¬ ({ limiters := [shape.spec 1, shape.spec 1] } : AdmissionConfig).KeepsLimit (lastMilli + 1)
      0 1 shape.window.toInt.toNat := by
  intro keeps
  have counted : (0 : Int64) < 1 := by decide
  obtain ⟨first, made, single, whole, _⟩ := (shape.spec_isWindow counted).built
  obtain ⟨one, two, built, stacked, paired, started⟩ := World.paired_of_specs made made
  have positive : 0 < first.threshold := by
    rw [single]
    decide
  have room : ({} : MemoryStore).HasRoom first first [(lastMilli, ""), (lastMilli, "")] :=
    ⟨MemoryStore.room_last _ positive "", MemoryStore.room_last _ positive "", trivial⟩
  obtain ⟨run, passed⟩ := @World.Paired.run _ _ _ _ _ _ _ _ (lastMilli + 1) "" _ paired room
    (by simp [started]) (by simp)
  have spaced := keeps World.withStore built ⟨0⟩ World.ownClock _ rfl stacked _ "" run
  rw [passed] at spaced
  have few : _ ≤ 1 := spaced.length_le lastMilli ?_
  · simp at few
  · intro moment member
    have := toNat_pos shape.positive
    simp at member
    omega

/-- A sliding window keeps its limit in every pipeline, whatever the thresholds and the order, if and
only if no other window that may use its keys is shorter. The clock must not come to its last
moment, where no limit is kept. -/
theorem AdmissionConfig.keepsLimit_iff (shape : Shape) (others : Set Shape) :
    ((∀ (config : AdmissionConfig) (place : Nat) (spec : LimiterSpec) (threshold : Int64),
        config.Within (insert shape others) → config.limiters[place]? = some spec →
        spec.IsWindow threshold shape →
        config.KeepsLimit lastMilli place threshold.toInt.toNat shape.window.toInt.toNat) ↔
      ∀ other ∈ others, shape.Meets other → shape.window ≤ other.window) ∧
    ∃ (config : AdmissionConfig) (spec : LimiterSpec), config.Within {shape} ∧
      config.limiters[0]? = some spec ∧ spec.IsWindow 1 shape ∧
      ¬ config.KeepsLimit (lastMilli + 1) 0 1 shape.window.toInt.toNat := by
  have three : (0 : Int64) < 3 := by decide
  have one : (0 : Int64) < 1 := by decide
  refine ⟨⟨?_, ?_⟩, ?_⟩
  · intro keeps other member met
    by_contra shorter
    apply not_keepsLimit_of_shorter met (Int64.not_le.mp shorter)
    refine keeps _ 0 (shape.spec 3) 3 ?_ rfl (shape.spec_isWindow three)
    intro spec listed _
    simp only [List.mem_cons, List.not_mem_nil, or_false] at listed
    rcases listed with rfl | rfl
    · exact ⟨3, shape, Set.mem_insert _ _, shape.spec_isWindow three⟩
    · exact ⟨1, other, Set.mem_insert_of_mem _ member, other.spec_isWindow one⟩
  · intro longer config place spec threshold within found sliding
    exact keepsLimit_of_longer within found sliding longer
  · refine ⟨_, shape.spec 1, ?_, rfl, shape.spec_isWindow one, not_keepsLimit_at_last shape⟩
    intro spec listed _
    simp only [List.mem_cons, List.not_mem_nil, or_false, or_self] at listed
    exact ⟨1, shape, rfl, listed ▸ shape.spec_isWindow one⟩

/-- Two windows without prefixes, of one second and of ten. The longer one should let two requests
through and lets the third one through as well. -/
theorem AdmissionConfig.second_window_overrun :
    ¬ ({ limiters := [.slidingWindow 5 1000 .failClosed 0 none,
        .slidingWindow 2 10000 .failClosed 0 none] } : AdmissionConfig).KeepsLimit
      lastMilli 1 2 10000 := by
  intro keeps
  let stack : Stack := { limiters := [⟨0⟩, ⟨1⟩] }
  let calls := [(0, "tenant"), (1000, "tenant"), (2000, "tenant")]
  let built := (World.withStore.buildStack { limiters :=
    [.slidingWindow 5 1000 .failClosed 0 none, .slidingWindow 2 10000 .failClosed 0 none] }
    (some ⟨0⟩)).2
  have run : built.Run ⟨0⟩ World.ownClock lastMilli stack
      (executions stack World.ownClock built calls) := by
    refine ⟨.setClock ?_ ?_, .setClock ?_ ?_, .setClock ?_ ?_, trivial⟩ <;> decide +kernel
  have passed : passages stack World.ownClock 1 "tenant"
      (executions stack World.ownClock built calls) = [0, 1000, 2000] := by
    decide +kernel
  have spaced := keeps World.withStore built ⟨0⟩ World.ownClock stack rfl rfl _ "tenant" run
  rw [passed] at spaced
  exact absurd (spaced 2000) (by decide)

end AdmissionControl
