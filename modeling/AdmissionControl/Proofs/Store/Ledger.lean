import AdmissionControl.Store.Memory
/-!
What a memory store keeps of each key, against a ledger that forgets nothing. The ledger has every
moment at which a request was admitted. The store has dropped some of them from the front, by
pruning the key or by sweeping it out, and none that is still inside the window that the key has at
least.
-/

namespace AdmissionControl

/-- The moments at which the requests of each key were admitted, oldest first. -/
abbrev Ledger := String → List Nat

namespace Ledger

/-- Those that a window reaches back to. -/
def live (ledger : Ledger) (window : Nat) (key : String) (now : Nat) : List Nat :=
  (ledger key).filter (now < · + window)

def enter (ledger : Ledger) (key : String) (events : List Nat) : Ledger := fun other =>
  if other = key then ledger key ++ events else ledger other

@[simp] theorem enter_self (ledger : Ledger) (key : String) (events : List Nat) :
    ledger.enter key events key = ledger key ++ events := by
  simp [enter]

theorem enter_other (ledger : Ledger) {key other : String} (apart : other ≠ key)
    (events : List Nat) : ledger.enter key events other = ledger other := by
  simp [enter, apart]

theorem sublist_enter (ledger : Ledger) (key other : String) (events : List Nat) :
    (ledger other).Sublist (ledger.enter key events other) := by
  by_cases same : other = key
  · subst same
    rw [enter_self]
    exact List.sublist_append_left _ _
  · simp [enter_other _ same]

@[simp] theorem enter_nil (ledger : Ledger) (key : String) : ledger.enter key [] = ledger := by
  funext other
  by_cases same : other = key <;> simp [enter, same]

end Ledger

namespace KeyEvents

/-- Before the last moment of a clock, sums that overflow say the same as sums that do not. -/
theorem left_iff {window now event : Nat} (shown : now < lastMilli) :
    left window now event = true ↔ event + window ≤ now := by
  rw [left, addMillis, decide_eq_true_iff]
  omega

theorem dropWhile_left {window now : Nat} {events : List Nat} (shown : now < lastMilli)
    (sorted : events.Pairwise (· ≤ ·)) :
    events.dropWhile (left window now) = events.filter (now < · + window) := by
  induction events with
  | nil => rfl
  | cons first rest ih =>
    obtain ⟨before, ordered⟩ := List.pairwise_cons.mp sorted
    by_cases gone : left window now first = true
    · have past := (left_iff shown).mp gone
      rw [List.dropWhile_cons_of_pos gone, List.filter_cons_of_neg (by simpa using past)]
      exact ih ordered
    · have inside : now < first + window := Nat.lt_of_not_le (gone ∘ (left_iff shown).mpr)
      rw [List.dropWhile_cons_of_neg gone, List.filter_cons_of_pos (by simpa using inside)]
      refine congrArg (first :: ·) (List.filter_eq_self.mpr ?_).symm
      intro event member
      have later := before event member
      simp only [decide_eq_true_eq]
      omega

theorem expired_left {entry : KeyEvents} {now event : Nat} (shown : now < lastMilli)
    (sorted : entry.events.Pairwise (· ≤ ·)) (expired : entry.expired now = true)
    (member : event ∈ entry.events) : event + entry.window ≤ now := by
  cases newest : entry.events.getLast? with
  | none => simp [List.getLast?_eq_none_iff.mp newest] at member
  | some last =>
    simp only [KeyEvents.expired, newest] at expired
    have gone := (left_iff shown).mp expired
    obtain ⟨before, same⟩ := List.getLast?_eq_some_iff.mp newest
    rw [same] at sorted member
    rcases List.mem_append.mp member with earlier | final
    · have later := (List.pairwise_append.mp sorted).2.2 event earlier last (by simp)
      omega
    · rw [List.mem_singleton.mp final]
      exact gone

end KeyEvents

namespace MemoryStore

def events (store : MemoryStore) (key : String) : List Nat :=
  match store.find? key with
  | some entry => entry.events
  | none => []

theorem recorded_eq (store : MemoryStore) (key : String) :
    store.recorded key = (store.events key).length := by
  simp only [recorded, events]
  cases store.find? key <;> rfl

/-- What is left of a key's events when a request has come to the key. -/
def kept (store : MemoryStore) (request : WindowRequest) (now : Nat) : List Nat :=
  ((store.sweepIfDue now request.window).1.events request.key).dropWhile
    (KeyEvents.left request.window now)

/-- A request leaves behind its key's events, with itself if they are fewer than its threshold. -/
theorem recordIfBelow_eq (store : MemoryStore) (request : WindowRequest) (now : Nat) :
    ∃ report, store.recordIfBelow request now =
      (decide ((store.kept request now).length < request.threshold),
        { (store.sweepIfDue now request.window).1 with
          keys := put (store.sweepIfDue now request.window).1.keys
            ⟨request.key, request.window, store.kept request now ++
              if (store.kept request now).length < request.threshold then [now] else []⟩ },
        report) := by
  refine ⟨(store.sweepIfDue now request.window).2, ?_⟩
  have found : ∃ window, ((store.sweepIfDue now request.window).1.find? request.key).getD
      { key := request.key } =
        ⟨request.key, window, (store.sweepIfDue now request.window).1.events request.key⟩ := by
    simp only [events]
    cases found : (store.sweepIfDue now request.window).1.find? request.key with
    | none => exact ⟨0, rfl⟩
    | some entry =>
      have same : entry.key = request.key := by simpa using List.find?_some found
      exact ⟨entry.window, by rw [← same]; rfl⟩
  obtain ⟨window, found⟩ := found
  simp only [recordIfBelow, KeyEvents.prune, found, ← kept.eq_def]
  by_cases below : (store.kept request now).length < request.threshold <;> simp [below]

theorem find?_put (entries : List KeyEvents) (entry : KeyEvents) (key : String) :
    (put entries entry).find? (·.key == key) =
      if entry.key = key then some entry else entries.find? (·.key == key) := by
  induction entries with
  | nil =>
    by_cases same : entry.key = key <;> simp [put, same]
  | cons first rest ih =>
    by_cases taken : first.key = entry.key
    · by_cases same : entry.key = key <;> simp [put, taken, same]
    · rw [put, if_neg taken]
      by_cases found : first.key = key
      · have apart : entry.key ≠ key := fun same => taken (found.trans same.symm)
        simp [found, apart]
      · simp [found, ih]

theorem recordIfBelow_fst (store : MemoryStore) (request : WindowRequest) (now : Nat) :
    (store.recordIfBelow request now).1 =
      decide ((store.kept request now).length < request.threshold) := by
  obtain ⟨report, recorded⟩ := store.recordIfBelow_eq request now
  rw [recorded]

theorem recordIfBelow_events (store : MemoryStore) (request : WindowRequest) (now : Nat) :
    (store.recordIfBelow request now).2.1.events request.key = store.kept request now ++
      if (store.kept request now).length < request.threshold then [now] else [] := by
  obtain ⟨report, recorded⟩ := store.recordIfBelow_eq request now
  simp only [recorded, events, find?, find?_put, if_true]

theorem mem_put {entries : List KeyEvents} {entry other : KeyEvents}
    (member : other ∈ put entries entry) : other = entry ∨ other ∈ entries := by
  induction entries with
  | nil => exact .inl (List.mem_singleton.mp member)
  | cons first rest ih =>
    rw [put] at member
    split at member
    · rcases List.mem_cons.mp member with same | later
      · exact .inl same
      · exact .inr (List.mem_cons_of_mem _ later)
    · rcases List.mem_cons.mp member with same | later
      · exact .inr (same ▸ List.mem_cons_self)
      · exact (ih later).imp id (List.mem_cons_of_mem _)

theorem put_distinct {entries : List KeyEvents} (entry : KeyEvents)
    (distinct : (entries.map KeyEvents.key).Nodup) :
    ((put entries entry).map KeyEvents.key).Nodup := by
  induction entries with
  | nil => simp [put]
  | cons first rest ih =>
    obtain ⟨fresh, others⟩ := List.nodup_cons.mp distinct
    rw [put]
    split
    · next same => exact List.nodup_cons.mpr ⟨same ▸ fresh, others⟩
    · next apart =>
      refine List.nodup_cons.mpr ⟨?_, ih others⟩
      intro member
      obtain ⟨other, inside, same⟩ := List.mem_map.mp member
      rcases mem_put inside with rfl | earlier
      · exact apart same.symm
      · exact fresh (List.mem_map.mpr ⟨other, earlier, same⟩)

theorem find?_sweep {store : MemoryStore} (distinct : (store.keys.map KeyEvents.key).Nodup)
    (now : Nat) (key : String) :
    (store.sweep now).find? key = (store.find? key).filter fun entry => !entry.expired now := by
  obtain ⟨entries, _⟩ := store
  simp only [sweep, find?] at *
  induction entries with
  | nil => rfl
  | cons first rest ih =>
    obtain ⟨fresh, others⟩ := List.nodup_cons.mp distinct
    by_cases found : first.key = key
    · have missing : (rest.filter fun entry => !entry.expired now).find? (·.key == key) = none := by
        rw [List.find?_eq_none]
        intro entry member same
        refine fresh (List.mem_map.mpr ⟨entry, (List.mem_filter.mp member).1, ?_⟩)
        exact (by simpa using same : entry.key = key).trans found.symm
      by_cases expired : first.expired now = true
      · simp [expired, found, missing, Option.filter]
      · simp [expired, found, Option.filter]
    · by_cases expired : first.expired now = true
      · simpa [expired, found] using ih others
      · simpa [expired, found] using ih others

end MemoryStore

/-- A store keeps what a ledger says, but for events that the key's window is sure to have left.
`bound` is the shortest window with which each key may be used. -/
structure Tracks (bound : String → Nat) (ledger : Ledger) (latest : Nat) (store : MemoryStore) :
    Prop where
  distinct : (store.keys.map KeyEvents.key).Nodup
  windows : ∀ entry ∈ store.keys, bound entry.key ≤ entry.window
  sorted : ∀ key, (ledger key).Pairwise (· ≤ ·)
  past : ∀ key, ∀ event ∈ ledger key, event ≤ latest
  kept : ∀ key, ∃ gone, ledger key = gone ++ store.events key ∧
    ∀ event ∈ gone, event + bound key ≤ latest

namespace Tracks

variable {bound : String → Nat} {ledger : Ledger} {latest now : Nat} {store : MemoryStore}

theorem new (bound : String → Nat) : Tracks bound (fun _ => []) 0 {} where
  distinct := List.nodup_nil
  windows := by simp
  sorted := by simp
  past := by simp
  kept := fun _ => ⟨[], rfl, by simp⟩

private theorem events_sorted (tracks : Tracks bound ledger latest store) (key : String) :
    (store.events key).Pairwise (· ≤ ·) := by
  obtain ⟨gone, same, _⟩ := tracks.kept key
  have sorted := tracks.sorted key
  rw [same] at sorted
  exact (List.pairwise_append.mp sorted).2.1

theorem later (tracks : Tracks bound ledger latest store) (rising : latest ≤ now)
    (lastSweep : Option Nat) : Tracks bound ledger now { store with lastSweep } where
  distinct := tracks.distinct
  windows := tracks.windows
  sorted := tracks.sorted
  past := fun key event member => Nat.le_trans (tracks.past key event member) rising
  kept := by
    intro key
    obtain ⟨gone, same, left⟩ := tracks.kept key
    exact ⟨gone, same, fun event member => Nat.le_trans (left event member) rising⟩

theorem sweep (tracks : Tracks bound ledger latest store) (rising : latest ≤ now)
    (shown : now < lastMilli) : Tracks bound ledger now (store.sweep now) where
  distinct := tracks.distinct.sublist (List.filter_sublist.map _)
  windows := fun entry member => tracks.windows entry (List.mem_filter.mp member).1
  sorted := tracks.sorted
  past := fun key event member => Nat.le_trans (tracks.past key event member) rising
  kept := by
    intro key
    obtain ⟨gone, same, left⟩ := tracks.kept key
    have ordered := tracks.events_sorted key
    have earlier : ∀ event ∈ gone, event + bound key ≤ now :=
      fun event member => Nat.le_trans (left event member) rising
    simp only [MemoryStore.events, MemoryStore.find?_sweep tracks.distinct] at same ordered ⊢
    cases found : store.find? key with
    | none => exact ⟨gone, by simpa [found] using same, earlier⟩
    | some entry =>
      simp only [found] at same ordered
      by_cases expired : entry.expired now = true
      · refine ⟨ledger key, by simp [Option.filter, expired], ?_⟩
        intro event member
        rw [same] at member
        rcases List.mem_append.mp member with member | member
        · exact earlier event member
        · have inside := List.mem_of_find?_eq_some found
          have key_eq : entry.key = key := by simpa using List.find?_some found
          have bounded := tracks.windows entry inside
          have past := KeyEvents.expired_left shown ordered expired member
          rw [key_eq] at bounded
          omega
      · exact ⟨gone, by simpa [Option.filter, expired] using same, earlier⟩

private theorem sweepIfDue (tracks : Tracks bound ledger latest store) (rising : latest ≤ now)
    (shown : now < lastMilli) (window : Nat) :
    Tracks bound ledger now (store.sweepIfDue now window).1 := by
  simp only [MemoryStore.sweepIfDue]
  split
  · exact tracks.sweep rising shown
  · exact tracks.later rising _

/-- As far as a window within the bound reaches back, the ledger says what the store says. -/
theorem live_eq (tracks : Tracks bound ledger latest store) (rising : latest ≤ now)
    (key : String) :
    ledger.live (bound key) key now = (store.events key).filter (now < · + bound key) := by
  obtain ⟨gone, same, left⟩ := tracks.kept key
  have past : gone.filter (now < · + bound key) = [] := by
    rw [List.filter_eq_nil_iff]
    intro event member
    have := left event member
    simp only [decide_eq_true_eq]
    omega
  rw [Ledger.live, same, List.filter_append, past, List.nil_append]

variable {request : WindowRequest}

/-- A store finds all the events that the shortest window of a key reaches back to. -/
theorem live_le_kept (tracks : Tracks bound ledger latest store) (rising : latest ≤ now)
    (shown : now < lastMilli) (bounded : bound request.key ≤ request.window) :
    (ledger.live (bound request.key) request.key now).length ≤ (store.kept request now).length := by
  have swept := tracks.sweepIfDue rising shown request.window
  rw [swept.live_eq (Nat.le_refl _), MemoryStore.kept,
    KeyEvents.dropWhile_left shown (swept.events_sorted _)]
  rw [← List.countP_eq_length_filter, ← List.countP_eq_length_filter]
  apply List.countP_mono_left
  intro event _ inside
  simp only [decide_eq_true_eq] at inside ⊢
  omega

/-- Under a key that is always used with one window a store finds these events and no others. -/
theorem live_eq_kept (tracks : Tracks bound ledger latest store) (rising : latest ≤ now)
    (shown : now < lastMilli) (same : bound request.key = request.window) :
    ledger.live request.window request.key now = store.kept request now := by
  have swept := tracks.sweepIfDue rising shown request.window
  rw [← same, swept.live_eq (Nat.le_refl _), MemoryStore.kept, ← same,
    KeyEvents.dropWhile_left shown (by rw [same]; exact swept.events_sorted _), same]

private theorem put {key : String} {window : Nat} {gone kept events : List Nat}
    (tracks : Tracks bound ledger now store) (bounded : bound key ≤ window)
    (split : store.events key = gone ++ kept) (left : ∀ event ∈ gone, event + bound key ≤ now)
    (present : ∀ event ∈ events, event = now) :
    Tracks bound (ledger.enter key events) now
      { store with keys := MemoryStore.put store.keys ⟨key, window, kept ++ events⟩ } where
  distinct := MemoryStore.put_distinct _ tracks.distinct
  windows := by
    intro entry member
    rcases MemoryStore.mem_put member with rfl | earlier
    · exact bounded
    · exact tracks.windows entry earlier
  sorted := by
    intro other
    by_cases same : other = key
    · subst same
      rw [Ledger.enter_self, List.pairwise_append]
      refine ⟨tracks.sorted other, ?_, ?_⟩
      · exact List.pairwise_of_forall_mem_list fun one first two second =>
          Nat.le_of_eq ((present one first).trans (present two second).symm)
      · intro event member last final
        rw [present last final]
        exact tracks.past other event member
    · rw [Ledger.enter_other _ same]
      exact tracks.sorted other
  past := by
    intro other event member
    by_cases same : other = key
    · subst same
      rw [Ledger.enter_self] at member
      rcases List.mem_append.mp member with earlier | final
      · exact tracks.past other event earlier
      · exact Nat.le_of_eq (present event final)
    · rw [Ledger.enter_other _ same] at member
      exact tracks.past other event member
  kept := by
    intro other
    obtain ⟨before, whole, past⟩ := tracks.kept other
    simp only [MemoryStore.events, MemoryStore.find?, MemoryStore.find?_put] at whole split ⊢
    by_cases same : other = key
    · subst same
      refine ⟨before ++ gone, ?_, ?_⟩
      · simp only [Ledger.enter_self, if_true, whole, split, List.append_assoc]
      · intro event member
        rcases List.mem_append.mp member with earlier | dropped
        · exact past event earlier
        · exact left event dropped
    · have apart : ¬ key = other := fun equal => same equal.symm
      simp only [Ledger.enter_other _ same, apart, if_false]
      exact ⟨before, whole, past⟩

/-- What a store records, a ledger records. -/
theorem record (tracks : Tracks bound ledger latest store) (rising : latest ≤ now)
    (shown : now < lastMilli) (bounded : bound request.key ≤ request.window) :
    Tracks bound
      (ledger.enter request.key
        (if (store.kept request now).length < request.threshold then [now] else []))
      now (store.recordIfBelow request now).2.1 := by
  have swept := tracks.sweepIfDue rising shown request.window
  obtain ⟨report, recorded⟩ := store.recordIfBelow_eq request now
  rw [recorded]
  refine swept.put bounded (List.takeWhile_append_dropWhile).symm ?_ ?_
  · intro event member
    have gone := (KeyEvents.left_iff shown).mp (List.all_eq_true.mp List.all_takeWhile event member)
    omega
  · intro event member
    split at member
    · exact List.mem_singleton.mp member
    · simp at member

end Tracks

end AdmissionControl
