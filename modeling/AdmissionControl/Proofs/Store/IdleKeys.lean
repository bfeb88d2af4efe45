import AdmissionControl.Proofs.Store.OutOfOrder
/-!
Idle keys do not pile up in a memory store. A store sweeps lazily: only a request that comes a
window or more after the last sweep has one made, and the first request of all just starts the
count. Still, no request leaves a key behind whose events are all older than two windows, and no
purge one whose events are all older than one.
-/

namespace AdmissionControl

namespace KeyEvents

/-- A window that ends now reaches back to an event of the key. -/
def active (entry : KeyEvents) (window now : Nat) : Bool :=
  entry.events.any (now < · + window)

variable {entry : KeyEvents} {window now : Nat}

private theorem active_iff :
    entry.active window now = true ↔ ∃ event ∈ entry.events, now < event + window := by
  simp [active]

/-- In order of time, a key expires when its window reaches back to no event. -/
theorem expired_eq (shown : now < lastMilli) (sorted : entry.events.Pairwise (· ≤ ·)) :
    entry.expired now = !entry.active entry.window now := by
  cases expired : entry.expired now with
  | true =>
    symm
    rw [Bool.not_eq_true', Bool.eq_false_iff, ne_eq, active_iff]
    rintro ⟨event, member, inside⟩
    exact Nat.not_le.mpr inside (expired_left shown sorted expired member)
  | false =>
    symm
    rw [Bool.not_eq_false', active_iff]
    unfold KeyEvents.expired at expired
    split at expired
    · next newest last =>
      have inside : ¬ newest + entry.window ≤ now := by
        rw [← left_iff shown, expired]
        exact Bool.false_ne_true
      exact ⟨newest, List.mem_of_getLast? last, Nat.lt_of_not_le inside⟩
    · cases expired

end KeyEvents

/-- A store whose keys have one window, at some time. Its keys have events within the window that
ended when it was swept last. -/
structure MemoryStore.Tidy (window latest : Nat) (store : MemoryStore) : Prop where
  windows : ∀ entry ∈ store.keys, entry.window = window
  sorted : ∀ entry ∈ store.keys, entry.events.Pairwise (· ≤ ·)
  past : ∀ entry ∈ store.keys, ∀ event ∈ entry.events, event ≤ latest
  swept : ∀ swept ∈ store.lastSweep, swept ≤ latest
  recent : ∀ entry ∈ store.keys, ∃ swept ∈ store.lastSweep, entry.active window swept = true

/-- What an errand makes of the keys of a store. A purge returns how many keys it forgets. -/
def Errand.Tidies (window : Nat) (before after : MemoryStore) : Errand → Prop
  | .record request clock =>
    ∀ entry ∈ after.keys, entry.events ≠ [] ∧
      entry.active (2 * window) (request.now.getD clock) = true
  | .purge clock =>
    (∀ entry ∈ after.keys, entry.active window clock = true) ∧
      before.purge clock = (before.keys.countP fun entry => !entry.active window clock, after)

namespace MemoryStore

private theorem purge_fst (store : MemoryStore) (now : Nat) :
    (store.purge now).1 = store.keys.countP (·.expired now) := by
  have parts := List.length_eq_countP_add_countP (fun entry : KeyEvents => entry.expired now)
    (l := store.keys)
  simp only [purge, size, sweep, ← List.countP_eq_length_filter]
  simp only [Bool.not_eq_true, ← Bool.not_eq_true'] at parts
  simp only [Bool.decide_eq_true] at parts
  omega

namespace Tidy

variable {window latest now : Nat} {store : MemoryStore} {request : WindowRequest}

theorem new (window latest : Nat) : Tidy window latest {} where
  windows := nofun
  sorted := nofun
  past := nofun
  swept := nofun
  recent := nofun

private theorem later (tidy : store.Tidy window latest) (rising : latest ≤ now) :
    store.Tidy window now where
  windows := tidy.windows
  sorted := tidy.sorted
  past entry member event inside := Nat.le_trans (tidy.past entry member event inside) rising
  swept swept last := Nat.le_trans (tidy.swept swept last) rising
  recent := tidy.recent

private theorem expired_eq (tidy : store.Tidy window latest) (shown : now < lastMilli)
    {entry : KeyEvents}
    (member : entry ∈ store.keys) : entry.expired now = !entry.active window now := by
  rw [KeyEvents.expired_eq shown (tidy.sorted entry member), tidy.windows entry member]

private theorem active_of_sweep (tidy : store.Tidy window latest) (shown : now < lastMilli) :
    ∀ entry ∈ (store.sweep now).keys, entry.active window now = true := by
  intro entry member
  obtain ⟨tracked, kept⟩ := List.mem_filter.mp member
  rw [tidy.expired_eq shown tracked, Bool.not_not] at kept
  exact kept

private theorem sweep (tidy : store.Tidy window latest) (rising : latest ≤ now)
    (shown : now < lastMilli) :
    (store.sweep now).Tidy window now where
  windows entry member := tidy.windows entry (List.mem_filter.mp member).1
  sorted entry member := tidy.sorted entry (List.mem_filter.mp member).1
  past entry member event inside :=
    Nat.le_trans (tidy.past entry (List.mem_filter.mp member).1 event inside) rising
  swept _ last := Nat.le_of_eq (Option.some.inj last).symm
  recent entry member := ⟨now, rfl, tidy.active_of_sweep shown entry member⟩

private theorem sweepIfDue (tidy : store.Tidy window latest) (rising : latest ≤ now)
    (shown : now < lastMilli) (positive : 0 < window) :
    (store.sweepIfDue now window).1.Tidy window now ∧
      ∃ swept ∈ (store.sweepIfDue now window).1.lastSweep, swept ≤ now ∧ now < swept + window := by
  unfold MemoryStore.sweepIfDue
  simp only []
  split
  · exact ⟨tidy.sweep rising shown, now, rfl, Nat.le_refl now, Nat.lt_add_of_pos_right positive⟩
  · next early =>
    cases last : store.lastSweep with
    | none =>
      have untracked : ∀ entry, entry ∉ store.keys := by
        intro entry member
        obtain ⟨swept, found, _⟩ := tidy.recent entry member
        rw [last] at found
        cases found
      refine ⟨⟨tidy.windows, tidy.sorted, (tidy.later rising).past, ?_, ?_⟩, now, rfl,
        Nat.le_refl now, Nat.lt_add_of_pos_right positive⟩
      · exact fun _ found => Nat.le_of_eq (Option.some.inj found).symm
      · exact fun entry member => absurd member (untracked entry)
    | some swept =>
      have before := Nat.le_trans (tidy.swept swept last) rising
      rw [last, Option.getD_some] at early
      have same : { store with lastSweep := some swept } = store := by rw [← last]
      refine ⟨?_, swept, rfl, before, by omega⟩
      rw [Option.getD_some, same]
      exact tidy.later rising

private theorem kept (tidy : store.Tidy window latest) (rising : latest ≤ now)
    (shown : now < lastMilli) (positive : 0 < window) (same : request.window = window) :
    (store.kept request now).Pairwise (· ≤ ·) ∧
      ∀ event ∈ store.kept request now, event ≤ now ∧ now < event + window := by
  have swept := (tidy.sweepIfDue rising shown positive).1
  have tracked : ((store.sweepIfDue now window).1.events request.key).Pairwise (· ≤ ·) ∧
      ∀ event ∈ (store.sweepIfDue now window).1.events request.key, event ≤ now := by
    unfold MemoryStore.events
    cases found : (store.sweepIfDue now window).1.find? request.key with
    | none => exact ⟨.nil, nofun⟩
    | some entry =>
      have member := List.mem_of_find?_eq_some found
      exact ⟨swept.sorted entry member, swept.past entry member⟩
  rw [MemoryStore.kept, same, KeyEvents.dropWhile_left shown tracked.1]
  refine ⟨tracked.1.sublist List.filter_sublist, fun event member => ?_⟩
  obtain ⟨inside, live⟩ := List.mem_filter.mp member
  exact ⟨tracked.2 event inside, of_decide_eq_true live⟩

private theorem put (tidy : store.Tidy window now) {key : String} {events : List Nat}
    (sorted : events.Pairwise (· ≤ ·)) (past : ∀ event ∈ events, event ≤ now)
    (recent : ∃ swept ∈ store.lastSweep,
      KeyEvents.active ⟨key, window, events⟩ window swept = true) :
    { store with keys := MemoryStore.put store.keys ⟨key, window, events⟩ }.Tidy window now where
  windows entry member := by
    rcases MemoryStore.mem_put member with rfl | other
    · rfl
    · exact tidy.windows entry other
  sorted entry member := by
    rcases MemoryStore.mem_put member with rfl | other
    · exact sorted
    · exact tidy.sorted entry other
  past entry member := by
    rcases MemoryStore.mem_put member with rfl | other
    · exact past
    · exact tidy.past entry other
  swept := tidy.swept
  recent entry member := by
    rcases MemoryStore.mem_put member with rfl | other
    · exact recent
    · exact tidy.recent entry other

/-- Whatever a request is answered, its key has an event within the window then. -/
theorem record (tidy : store.Tidy window latest) (rising : latest ≤ now) (shown : now < lastMilli)
    (positive : 0 < window) (same : request.window = window) (asks : 0 < request.threshold) :
    (store.recordIfBelow request now).2.1.Tidy window now ∧
      ∃ swept ∈ (store.recordIfBelow request now).2.1.lastSweep, now < swept + window := by
  obtain ⟨swept, last, found, before, inside⟩ := tidy.sweepIfDue rising shown positive
  obtain ⟨sorted, live⟩ := tidy.kept rising shown positive same
  obtain ⟨report, recorded⟩ := store.recordIfBelow_eq request now
  rw [recorded, same]
  have recent (events : List Nat) (some : ∃ event ∈ events, now < event + window) :
      ∃ swept ∈ (store.sweepIfDue now window).1.lastSweep,
        KeyEvents.active ⟨request.key, window, events⟩ window swept = true := by
    obtain ⟨event, member, ahead⟩ := some
    exact ⟨last, found, KeyEvents.active_iff.mpr ⟨event, member, by omega⟩⟩
  refine ⟨?_, last, found, inside⟩
  by_cases room : (store.kept request now).length < request.threshold
  · rw [if_pos room]
    have newest : now ∈ store.kept request now ++ [now] := List.mem_concat_self
    refine swept.put ?_ ?_ (recent _ ⟨now, newest, Nat.lt_add_of_pos_right positive⟩)
    · refine List.pairwise_append.mpr ⟨sorted, List.pairwise_singleton _ now, ?_⟩
      intro event member last final
      rw [List.mem_singleton.mp final]
      exact (live event member).1
    · intro event member
      rcases List.mem_append.mp member with earlier | final
      · exact (live event earlier).1
      · exact Nat.le_of_eq (List.mem_singleton.mp final)
  · -- A refused request finds as many events within the window as its threshold, and so one.
    rw [if_neg room, List.append_nil]
    have several := Nat.lt_of_lt_of_le asks (Nat.le_of_not_lt room)
    obtain ⟨event, member⟩ := List.exists_mem_of_length_pos several
    exact swept.put sorted (fun event member => (live event member).1)
      (recent _ ⟨event, member, (live event member).2⟩)

/-- A store stays tidy through every errand, and each leaves of the keys what it may. -/
theorem serve {errand : Errand} (tidy : store.Tidy window latest)
    (rising : latest ≤ errand.moment) (shown : errand.moment < lastMilli) (positive : 0 < window)
    (same : ∀ request ∈ errand.request?, request.window = window)
    (asks : ∀ request ∈ errand.request?, 0 < request.threshold) :
    (store.serve errand).2.Tidy window errand.moment ∧
      errand.Tidies window store (store.serve errand).2 := by
  cases errand with
  | record request clock =>
    obtain ⟨tidied, last, found, inside⟩ :=
      tidy.record rising shown positive (same request rfl) (asks request rfl)
    refine ⟨tidied, fun entry member => ?_⟩
    obtain ⟨swept, again, active⟩ := tidied.recent entry member
    obtain rfl := Option.some.inj (found.symm.trans again)
    obtain ⟨event, listed, live⟩ := KeyEvents.active_iff.mp active
    refine ⟨List.ne_nil_of_mem listed, KeyEvents.active_iff.mpr ⟨event, listed, ?_⟩⟩
    simp only [Errand.moment] at inside
    omega
  | purge clock =>
    refine ⟨tidy.sweep rising shown, tidy.active_of_sweep shown, Prod.ext ?_ rfl⟩
    rw [MemoryStore.purge_fst]
    apply List.countP_congr
    intro entry member
    have expired : entry.expired clock = !entry.active window clock :=
      tidy.expired_eq shown member
    rw [expired]

end Tidy

end MemoryStore

namespace World

/-- A store has done one errand after the other. -/
def afterErrands (world : World) (ref : Ref Store) (clock : Ref Clock) (errands : List Errand) :
    World :=
  errands.foldl (fun world errand => (world.errand ref clock errand).2) world

variable {window latest : Nat} {store : MemoryStore} {world : World} {ref : Ref Store}
  {clock : Ref Clock} {errands : List Errand} {last : Errand}

private theorem afterErrands_concat : world.afterErrands ref clock (errands ++ [last]) =
    ((world.afterErrands ref clock errands).errand ref clock last).2 := by
  rw [afterErrands, List.foldl_append]
  rfl

private theorem errands_tidy (tidy : store.Tidy window latest)
    (holds : world.stores.get ref = .memory store clock) (positive : 0 < window)
    (steady : Errand.Steady (fun _ => window) errands)
    (asking : ∀ errand ∈ errands, ∀ request ∈ errand.request?, 0 < request.threshold)
    (after : ∀ errand ∈ errands, latest ≤ errand.moment) {now : Nat} (rising : latest ≤ now)
    (before : ∀ errand ∈ errands, errand.moment ≤ now) :
    ∃ left, (world.afterErrands ref clock errands).stores.get ref = .memory left clock ∧
      left.Tidy window now := by
  induction errands generalizing world store latest with
  | nil => exact ⟨store, holds, tidy.later rising⟩
  | cons errand rest ih =>
    obtain ⟨ordered, shown, windows⟩ := steady
    simp only [List.map_cons, List.pairwise_cons, List.forall_mem_map] at ordered
    simp only [List.forall_mem_cons] at shown windows asking after before
    obtain ⟨tidied, -⟩ := tidy.serve after.1 shown.1 positive windows.1 asking.1
    exact ih tidied (World.errand_memory holds errand).2 ⟨ordered.2, shown.2, windows.2⟩ asking.2
      ordered.1 before.1 before.2

/-- Idle keys do not pile up. After any errands of a store whose keys have one window, a request
leaves no key without an event that is newer than two windows, and a purge none without one that is
newer than a window. The purge returns how many keys had none. -/
theorem idle_keys_forgotten (world : World) (ref : Ref Store) (clock : Ref Clock)
    (fresh : world.stores.get ref = .memory {} clock) (positive : 0 < window)
    (steady : Errand.Steady (fun _ => window) (errands ++ [last]))
    (asking : ∀ errand ∈ errands ++ [last], ∀ request ∈ errand.request?, 0 < request.threshold) :
    last.Tidies window ((world.afterErrands ref clock errands).memory ref)
      ((world.afterErrands ref clock (errands ++ [last])).memory ref) := by
  obtain ⟨ordered, shown, windows⟩ := steady
  simp only [List.forall_mem_append, List.forall_mem_singleton] at shown windows asking
  rw [List.map_append, List.map_singleton, List.pairwise_append] at ordered
  have before : ∀ errand ∈ errands, errand.moment ≤ last.moment :=
    fun errand member => ordered.2.2 _ (List.mem_map_of_mem member) _ (List.mem_singleton_self _)
  obtain ⟨left, holds, tidy⟩ := errands_tidy (.new window 0) fresh positive
    ⟨ordered.1, shown.1, windows.1⟩ asking.1 (fun _ _ => Nat.zero_le _) (Nat.zero_le _) before
  obtain ⟨-, tidies⟩ := tidy.serve (Nat.le_refl _) shown.2 positive windows.2 asking.2
  have final := (World.errand_memory holds last).2
  rw [afterErrands_concat, memory, holds, memory, final]
  exact tidies

/-- Keys with a window of 10 milliseconds. The request at 10 is refused. It sweeps the store, and
the key that it finds there may stay for nearly two windows. -/
theorem idle_keys_forgotten_late :
    let world : World := { clocks := ⟨#[{}]⟩, stores := ⟨#[.memory {} ⟨0⟩]⟩ }
    let request (key : String) : WindowRequest := ⟨key, 10, 1, none⟩
    let errands : List Errand :=
      [.record (request "one") 0, .record (request "two") 1, .record (request "two") 10]
    let before := (world.afterErrands ⟨0⟩ ⟨0⟩ errands).memory ⟨0⟩
    let stays : KeyEvents := ⟨"two", 10, [1]⟩
    (∀ last : Errand, last ∈ [.record (request "three") 19, .purge 19] →
        (world.stores.get ⟨0⟩ = .memory {} ⟨0⟩ ∧ 0 < 10 ∧
            Errand.Steady (fun _ => 10) (errands ++ [last]) ∧
            ∀ errand ∈ errands ++ [last], ∀ request ∈ errand.request?, 0 < request.threshold) ∧
          last.Tidies 10 before ((world.afterErrands ⟨0⟩ ⟨0⟩ (errands ++ [last])).memory ⟨0⟩)) ∧
      before = { keys := [stays], lastSweep := some 10 } ∧
      (world.afterErrands ⟨0⟩ ⟨0⟩ (errands ++ [.record (request "three") 19])).memory ⟨0⟩ =
        { keys := [stays, ⟨"three", 10, [19]⟩], lastSweep := some 10 } ∧
      before.purge 19 = (1, { keys := [], lastSweep := some 19 }) := by
  intro world request errands before stays
  refine ⟨fun last listed => ?_, by decide +kernel, by decide +kernel, by decide +kernel⟩
  have steady : Errand.Steady (fun _ => 10) (errands ++ [last]) := by
    simp only [List.mem_cons, List.not_mem_nil, or_false] at listed
    rcases listed with rfl | rfl <;>
      exact ⟨by decide, by decide, by simp [errands, request, Errand.request?]⟩
  have asking : ∀ errand ∈ errands ++ [last], ∀ request ∈ errand.request?,
      0 < request.threshold := by
    simp only [List.mem_cons, List.not_mem_nil, or_false] at listed
    rcases listed with rfl | rfl <;> simp [errands, request, Errand.request?]
  have fresh : world.stores.get ⟨0⟩ = .memory {} ⟨0⟩ := rfl
  have positive : 0 < 10 := by decide
  exact ⟨⟨fresh, positive, steady, asking⟩,
    idle_keys_forgotten world ⟨0⟩ ⟨0⟩ fresh positive steady asking⟩

end World

end AdmissionControl
