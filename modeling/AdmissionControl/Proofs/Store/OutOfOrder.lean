import AdmissionControl.Proofs.Store.SlidingWindow
import Mathlib.Data.Set.Subsingleton
import Mathlib.Logic.Function.Basic
/-!
Moments that are out of order. A store takes the events of a key to be in the order of time: it
prunes a key from the front, up to the first event that is still in the window, and it sweeps a key
out by its last event. When time goes back, events that have left the window are kept behind one
that has not, and events that have not are swept out with one that has.
-/

namespace AdmissionControl

namespace Ledger

/-- A request drops those of its key's events that have left its window, wherever they stand, and is
recorded if the others are fewer than its threshold. -/
def serve (ledger : Ledger) : Errand → Option Receipt × Ledger
  | .record request clock =>
    let now := request.now.getD clock
    let live := ledger.live request.window request.key now
    let events := live ++ if live.length < request.threshold then [now] else []
    (some ⟨.ok (live.length < request.threshold), events.length⟩,
      Function.update ledger request.key events)
  | .purge _ => (none, ledger)

def served (ledger : Ledger) : List Errand → List (Option Receipt)
  | [] => []
  | errand :: rest =>
    let (receipt, ledger) := ledger.serve errand
    receipt :: ledger.served rest

end Ledger

namespace MemoryStore

def serve (store : MemoryStore) : Errand → Option Receipt × MemoryStore
  | .record request clock =>
    let (recorded, store, _) := store.recordIfBelow request (request.now.getD clock)
    (some ⟨.ok recorded, store.recorded request.key⟩, store)
  | .purge clock => (none, store.sweep clock)

def served (store : MemoryStore) : List Errand → List (Option Receipt)
  | [] => []
  | errand :: rest =>
    let (receipt, store) := store.serve errand
    receipt :: store.served rest

end MemoryStore

/-- Requests for some keys, with one window and one threshold. No moment is more than the slack
before an earlier one, and none is the last of all. -/
structure Errand.Stray (keys : Set String) (window threshold slack : Nat) (errands : List Errand) :
    Prop where
  requests : ∀ errand ∈ errands, ∃ request ∈ errand.request?,
    request.key ∈ keys ∧ request.window = window ∧ request.threshold = threshold
  shown : ∀ errand ∈ errands, errand.moment < lastMilli
  backward : (errands.map Errand.moment).Pairwise (· ≤ · + slack)

/-- A new store answers such requests as a ledger does that does as it is asked, in a part of each
receipt. -/
def MemoryStore.KeepsContract {β : Type} (part : Receipt → β) (keys : Set String)
    (window threshold slack : Nat) : Prop :=
  ∀ (world : World) (ref : Ref Store) (clock : Ref Clock) (errands : List Errand),
    world.stores.get ref = .memory {} clock → Errand.Stray keys window threshold slack errands →
    (world.receipts ref clock errands).map (Option.map part) =
      (Ledger.served (fun _ => []) errands).map (Option.map part)

/-- It makes no difference that time goes back: it does not, or no event ever leaves the window, or
none is recorded, or nobody asks, or all requests are for one key with room for one event. -/
def MemoryStore.Harmless (keys : Set String) (window threshold slack : Nat) : Prop :=
  slack = 0 ∨ lastMilli ≤ window ∨ threshold = 0 ∨ keys = ∅ ∨ threshold = 1 ∧ keys.Subsingleton

private theorem MemoryStore.sweepIfDue_sublist (store : MemoryStore) (now window : Nat) :
    (store.sweepIfDue now window).1.keys.Sublist store.keys := by
  simp only [sweepIfDue]
  split
  · exact List.filter_sublist
  · exact List.Sublist.refl _

section Worlds

variable {world : World} {ref : Ref Store} {clock : Ref Clock} {store : MemoryStore}

theorem World.errand_memory (holds : world.stores.get ref = .memory store clock)
    (errand : Errand) :
    (world.errand ref clock errand).1 = (store.serve errand).1 ∧
      (world.errand ref clock errand).2.stores.get ref =
        .memory (store.serve errand).2 clock := by
  have holds' (now : Nat) : (world.setClock clock now).stores.get ref = .memory store clock := holds
  have set (now : Nat) : ((world.setClock clock now).clocks.get clock).now = now := by
    simp [World.setClock]
  cases errand with
  | record request now =>
    obtain ⟨after, consulted, stored, _⟩ := World.consult_memory (holds' now) request
    rw [set] at consulted stored
    simp only [World.errand, consulted, World.memory, stored, MemoryStore.serve, and_self]
  | purge now =>
    have purged := World.purge_memory (holds' now)
    rw [set] at purged
    exact ⟨rfl, purged⟩

private theorem World.receipts_memory (holds : world.stores.get ref = .memory store clock)
    (errands : List Errand) : world.receipts ref clock errands = store.served errands := by
  induction errands generalizing world store with
  | nil => rfl
  | cons errand rest ih =>
    obtain ⟨receipt, stored⟩ := World.errand_memory holds errand
    simp only [World.receipts, MemoryStore.served, receipt, ih stored]

end Worlds

namespace Ledger

variable {ledger pruned : Ledger} {window latest : Nat}

private theorem filter_live {now later : Nat} (after : now ≤ later) (events : List Nat) :
    (events.filter (now < · + window)).filter (later < · + window) =
      events.filter (later < · + window) := by
  rw [List.filter_filter]
  apply List.filter_congr
  intro event _
  rw [Bool.eq_iff_iff]
  simp only [Bool.and_eq_true, decide_eq_true_eq]
  omega

/-- A ledger that drops events says the same of later moments as one that does not. -/
theorem live_update {key : String} {now later : Nat}
    (agree : ∀ key, pruned.live window key later = ledger.live window key later)
    (after : now ≤ later) (events : List Nat) (other : String) :
    Ledger.live (Function.update pruned key (pruned.live window key now ++ events)) window other
        later = (ledger.enter key events).live window other later := by
  have earlier := agree other
  by_cases found : other = key
  · subst found
    simp only [live] at earlier
    simp only [live, Function.update_self, enter_self, List.filter_append, filter_live after,
      earlier]
  · simp only [live, Function.update_of_ne found, enter_other _ found] at earlier ⊢
    exact earlier

/-- As long as time does not go back, it makes no difference that events are dropped. -/
theorem served_eq_receipts {errands : List Errand}
    (agree : ∀ now ≥ latest, ∀ key, pruned.live window key now = ledger.live window key now)
    (windows : ∀ errand ∈ errands, ∀ request ∈ errand.request?, request.window = window)
    (rising : (errands.map Errand.moment).Pairwise (· ≤ ·))
    (after : ∀ errand ∈ errands, latest ≤ errand.moment) :
    pruned.served errands = ledger.receipts errands := by
  induction errands generalizing ledger pruned latest with
  | nil => rfl
  | cons errand rest ih =>
    rw [List.map_cons, List.pairwise_cons, List.forall_mem_map] at rising
    rw [List.forall_mem_cons] at windows after
    cases errand with
    | purge now => exact congrArg (none :: ·) (ih agree windows.2 rising.2 after.2)
    | record request clock =>
      have same : request.window = window := windows.1 request rfl
      have first := agree (request.now.getD clock) after.1 request.key
      have next (events : List Nat) : ∀ later ≥ request.now.getD clock, ∀ key,
          Ledger.live (Function.update pruned request.key
              (ledger.live window request.key (request.now.getD clock) ++ events))
            window key later =
            (ledger.enter request.key events).live window key later := by
        intro later reached
        rw [← first]
        exact live_update (agree later (Nat.le_trans after.1 reached)) reached events
      simp only [served, receipts, serve, errand, same, first]
      split
      · next room =>
        rw [List.length_append, List.length_singleton, decide_eq_true room]
        exact congrArg (_ :: ·) (ih (next _) windows.2 rising.2 rising.1)
      · next full =>
        have next := next []
        rw [enter_nil] at next
        rw [List.length_append, List.length_nil, Nat.add_zero, decide_eq_false full]
        exact congrArg (_ :: ·) (ih next windows.2 rising.2 rising.1)

end Ledger

/-- A request of the key loses nothing and keeps nothing against the window: the key's events are in
order or all inside it, and those of the other keys are all inside it. -/
structure Ledger.Settled (ledger : Ledger) (window now : Nat) (key : String) : Prop where
  own : (ledger key).Pairwise (· ≤ ·) ∨ ∀ event ∈ ledger key, now < event + window
  others : ∀ other ≠ key, ∀ event ∈ ledger other, now < event + window

structure Mirrors (window : Nat) (ledger : Ledger) (store : MemoryStore) : Prop where
  distinct : (store.keys.map KeyEvents.key).Nodup
  windows : ∀ entry ∈ store.keys, entry.window = window
  events : ∀ key, store.events key = ledger key

namespace Mirrors

variable {window now : Nat} {ledger : Ledger} {store : MemoryStore}

theorem new (window : Nat) : Mirrors window (fun _ => []) {} where
  distinct := List.nodup_nil
  windows := by simp
  events := fun _ => rfl

private theorem sweep (mirrors : Mirrors window ledger store) (shown : now < lastMilli)
    (key : String) :
    (store.sweep now).events key = ledger key ∨
      (store.sweep now).events key = [] ∧
        ∀ last ∈ (ledger key).getLast?, last + window ≤ now := by
  have held := mirrors.events key
  simp only [MemoryStore.events, MemoryStore.find?_sweep mirrors.distinct] at held ⊢
  cases found : store.find? key with
  | none =>
    rw [found] at held
    exact .inl held
  | some entry =>
    have same : entry.window = window := mirrors.windows entry (List.mem_of_find?_eq_some found)
    simp only [found] at held
    by_cases expired : entry.expired now = true
    · refine .inr ⟨by simp [Option.filter, expired], fun last newest => ?_⟩
      rw [← held] at newest
      rw [KeyEvents.expired, Option.mem_def.mp newest] at expired
      rw [← same]
      exact (KeyEvents.left_iff shown).mp expired
    · exact .inl (by simpa [Option.filter, expired] using held)

private theorem sweepIfDue (mirrors : Mirrors window ledger store) (shown : now < lastMilli)
    (span : Nat) (key : String) :
    (store.sweepIfDue now span).1.events key = ledger key ∨
      (store.sweepIfDue now span).1.events key = [] ∧
        ∀ last ∈ (ledger key).getLast?, last + window ≤ now := by
  simp only [MemoryStore.sweepIfDue]
  split
  · exact mirrors.sweep shown key
  · exact .inl (mirrors.events key)

private theorem sweepIfDue_inside (mirrors : Mirrors window ledger store) (shown : now < lastMilli)
    (span : Nat) {key : String} (inside : ∀ event ∈ ledger key, now < event + window) :
    (store.sweepIfDue now span).1.events key = ledger key := by
  rcases mirrors.sweepIfDue shown span key with same | ⟨forgotten, past⟩
  · exact same
  · rw [forgotten]
    cases newest : (ledger key).getLast? with
    | none => exact (List.getLast?_eq_none_iff.mp newest).symm
    | some last =>
      have left := past last newest
      have right := inside last (List.mem_of_getLast? newest)
      omega

variable {request : WindowRequest}

private theorem kept_eq_live (mirrors : Mirrors window ledger store)
    (settled : ledger.Settled window now request.key) (shown : now < lastMilli)
    (same : request.window = window) :
    store.kept request now = ledger.live window request.key now := by
  rw [MemoryStore.kept, Ledger.live, same]
  rcases settled.own with sorted | inside
  · rcases mirrors.sweepIfDue shown window request.key with held | ⟨forgotten, past⟩
    · rw [held, KeyEvents.dropWhile_left shown sorted]
    · have expired : KeyEvents.expired ⟨request.key, window, ledger request.key⟩ now = true := by
        rw [KeyEvents.expired]
        split
        · next last newest => exact (KeyEvents.left_iff shown).mpr (past last newest)
        · rfl
      rw [forgotten, List.dropWhile_nil, eq_comm, List.filter_eq_nil_iff]
      intro event member
      have gone : event + window ≤ now := KeyEvents.expired_left shown sorted expired member
      simpa using gone
  · rw [mirrors.sweepIfDue_inside shown window inside,
      List.filter_eq_self.mpr (by simpa using inside)]
    cases held : ledger request.key with
    | nil => rfl
    | cons first rest =>
      have ahead : now < first + window := inside first (held ▸ List.mem_cons_self)
      refine List.dropWhile_cons_of_neg fun gone => ?_
      exact absurd ((KeyEvents.left_iff shown).mp gone) (Nat.not_le.mpr ahead)

/-- A request at a settled key is answered as it should be, and so are those after it. -/
theorem serve {clock : Nat} (mirrors : Mirrors window ledger store)
    (settled : ledger.Settled window (request.now.getD clock) request.key)
    (shown : request.now.getD clock < lastMilli) (same : request.window = window) :
    (store.serve (.record request clock)).1 = (ledger.serve (.record request clock)).1 ∧
      Mirrors window (ledger.serve (.record request clock)).2
        (store.serve (.record request clock)).2 := by
  have kept := mirrors.kept_eq_live settled shown same
  have fewer := store.sweepIfDue_sublist (request.now.getD clock) request.window
  obtain ⟨report, recorded⟩ := store.recordIfBelow_eq request (request.now.getD clock)
  have counted := store.recordIfBelow_events request (request.now.getD clock)
  rw [kept] at recorded counted
  simp only [MemoryStore.serve, Ledger.serve, MemoryStore.recorded_eq, counted, same]
  rw [recorded]
  refine ⟨rfl, MemoryStore.put_distinct _ (mirrors.distinct.sublist (fewer.map _)), ?_, ?_⟩
  · intro entry member
    rcases MemoryStore.mem_put member with rfl | earlier
    · exact same
    · exact mirrors.windows entry (fewer.subset earlier)
  · intro key
    simp only [MemoryStore.events, MemoryStore.find?, MemoryStore.find?_put]
    by_cases found : request.key = key
    · subst found
      simp only [if_true, Function.update_self]
    · have inside := mirrors.sweepIfDue_inside shown request.window
        (settled.others key (Ne.symm found))
      simp only [found, if_false, Function.update_of_ne (Ne.symm found)]
      exact inside

end Mirrors

structure Ledger.Sparse (keys : Set String) (threshold : Nat) (ledger : Ledger) : Prop where
  few : ∀ key, (ledger key).length ≤ threshold
  absent : ∀ key ∉ keys, ledger key = []

section Sparse

variable {keys : Set String} {window threshold slack : Nat} {ledger : Ledger}
  {request : WindowRequest} {clock : Nat}

private theorem Ledger.Sparse.serve (sparse : ledger.Sparse keys threshold)
    (listed : request.key ∈ keys) (same : request.threshold = threshold) :
    (ledger.serve (.record request clock)).2.Sparse keys threshold where
  few := by
    intro key
    simp only [Ledger.serve]
    by_cases found : key = request.key
    · subst found
      have fewer : (ledger.live request.window request.key (request.now.getD clock)).length ≤
          threshold := Nat.le_trans (List.length_filter_le _ _) (sparse.few request.key)
      rw [Function.update_self, List.length_append, same]
      split
      · next room => exact room
      · exact fewer
    · rw [Function.update_of_ne found]
      exact sparse.few key
  absent := by
    intro key missing
    have found : key ≠ request.key := fun same => missing (same ▸ listed)
    simp only [Ledger.serve, Function.update_of_ne found]
    exact sparse.absent key missing

/-- If the keys are settled whenever they are asked for, a store does as it is asked. -/
theorem Mirrors.served {store : MemoryStore} {errands : List Errand}
    (mirrors : Mirrors window ledger store) (sparse : ledger.Sparse keys threshold)
    (stray : Errand.Stray keys window threshold slack errands)
    (settled : ∀ ledger : Ledger, ledger.Sparse keys threshold → ∀ key ∈ keys, ∀ now < lastMilli,
      ledger.Settled window now key) :
    store.served errands = ledger.served errands := by
  induction errands generalizing ledger store with
  | nil => rfl
  | cons errand rest ih =>
    obtain ⟨requests, shown, backward⟩ := stray
    rw [List.forall_mem_cons] at requests shown
    rw [List.map_cons, List.pairwise_cons] at backward
    obtain ⟨⟨request, made, listed, same, limit⟩, requests⟩ := requests
    cases errand with
    | purge now => cases made
    | record request clock =>
      cases made
      obtain ⟨receipt, mirrors⟩ :=
        mirrors.serve (settled ledger sparse request.key listed _ shown.1) shown.1 same
      have others := ih mirrors (sparse.serve listed limit) ⟨requests, shown.2, backward.2⟩
      simp only [MemoryStore.served, Ledger.served, receipt, others]

variable {β : Type} {part : Receipt → β}

private theorem MemoryStore.keepsContract_of_settled
    (settled : ∀ ledger : Ledger, ledger.Sparse keys threshold → ∀ key ∈ keys, ∀ now < lastMilli,
      ledger.Settled window now key) :
    KeepsContract part keys window threshold slack := by
  intro world ref clock errands fresh stray
  rw [World.receipts_memory fresh,
    (Mirrors.new window).served ⟨fun _ => Nat.zero_le _, fun _ _ => rfl⟩ stray settled]

/-- In time that does not go back a store does as it is asked. -/
theorem MemoryStore.keepsContract_rising : KeepsContract part keys window threshold 0 := by
  intro world ref clock errands fresh stray
  have windows : ∀ errand ∈ errands, ∀ request ∈ errand.request?, request.window = window := by
    intro errand member request made
    obtain ⟨other, same, -, span, -⟩ := stray.requests errand member
    rw [Option.mem_def.mp made] at same
    exact (Option.some.inj same) ▸ span
  have after : ∀ errand ∈ errands, 0 ≤ errand.moment := fun _ _ => Nat.zero_le _
  have exact := (Tracks.new fun _ => window).receipts fresh
    ⟨stray.backward, stray.shown, windows⟩ after
  rw [exact, Ledger.served_eq_receipts (fun _ _ _ => rfl) windows stray.backward after]

private theorem MemoryStore.keepsContract_of_harmless
    (harmless : Harmless keys window threshold slack) :
    KeepsContract part keys window threshold slack := by
  rcases harmless with rfl | few
  · exact keepsContract_rising
  -- In all other cases the keys are settled at any moment, in whatever order requests come.
  apply keepsContract_of_settled
  intro ledger sparse key listed now shown
  rcases few with long | none | nobody | ⟨one, alone⟩
  · exact ⟨.inr fun event _ => by omega, fun other _ event _ => by omega⟩
  · have empty (key : String) : ledger key = [] :=
      List.eq_nil_of_length_eq_zero (Nat.le_zero.mp (none ▸ sparse.few key))
    exact ⟨.inl (by rw [empty]; exact .nil), fun other _ event member => by simp [empty] at member⟩
  · exact absurd (nobody ▸ listed) (Set.notMem_empty key)
  · refine ⟨.inl ?_, fun other apart event member => ?_⟩
    · have single := sparse.few key
      rw [one] at single
      match ledger key, single with
      | [], _ => exact .nil
      | [event], _ => exact List.pairwise_singleton _ _
    · rw [sparse.absent other fun inside => apart (alone inside listed)] at member
      exact absurd member List.not_mem_nil

end Sparse

section Refutations

variable {keys : Set String} {window threshold slack : Nat} {one other : String}

def Errand.stamped (key : String) (window threshold now : Nat) : Errand :=
  .record ⟨key, window, threshold, some now⟩ 0

private theorem Errand.stray_stamped {moments : List Nat} (listed : one ∈ keys)
    (shown : ∀ now ∈ moments, now < lastMilli) (backward : moments.Pairwise (· ≤ · + slack)) :
    Errand.Stray keys window threshold slack (moments.map (.stamped one window threshold)) where
  requests := by
    rw [List.forall_mem_map]
    exact fun now _ => ⟨_, rfl, listed, rfl, rfl⟩
  shown := by
    rw [List.forall_mem_map]
    exact shown
  backward := by
    have moments_eq :
        (moments.map (.stamped one window threshold)).map Errand.moment = moments := by
      rw [List.map_map]
      exact List.map_id moments
    rw [moments_eq]
    exact backward

def MemoryStore.alone : World := { stores := ⟨#[.memory {} ⟨0⟩]⟩ }

private theorem MemoryStore.KeepsContract.answers {errands : List Errand}
    (keeps : KeepsContract Receipt.answer keys window threshold slack)
    (stray : Errand.Stray keys window threshold slack errands) :
    (MemoryStore.served {} errands).map (Option.map Receipt.answer) =
      (Ledger.served (fun _ => []) errands).map (Option.map Receipt.answer) := by
  have fresh : alone.stores.get ⟨0⟩ = .memory {} ⟨0⟩ := rfl
  have same := keeps alone ⟨0⟩ ⟨0⟩ errands fresh stray
  rwa [World.receipts_memory fresh] at same

/-- A later request of another key sweeps out an event that an earlier moment is still to count. -/
theorem MemoryStore.not_keepsContract_swept (apart : one ≠ other) (first : one ∈ keys)
    (second : other ∈ keys) (long : 1 ≤ window) (short : window < lastMilli) (back : 1 ≤ slack) :
    ¬ KeepsContract Receipt.answer keys window 1 slack := by
  intro keeps
  have stray : Errand.Stray keys window 1 slack
      [.stamped one window 1 0, .stamped other window 1 window,
        .stamped one window 1 (window - 1)] := by
    refine ⟨?_, ?_, ?_⟩
    · simp [Errand.stamped, Errand.request?, first, second]
    · simp only [List.forall_mem_cons, Errand.stamped, Errand.moment, Option.getD_some]
      exact ⟨by omega, by omega, by omega, List.forall_mem_nil _⟩
    · simp [Errand.stamped, Errand.moment]
      omega
  have same := keeps.answers stray
  have ended : addMillis 0 window = window := by
    rw [addMillis, Nat.zero_add, Nat.min_eq_left (Nat.le_of_lt short)]
  have positive : window ≠ 0 := by omega
  have past : window - 1 - window = 0 := by omega
  have inside : window - 1 < window := by omega
  -- The event at 0 is swept out at the end of its window, and missed a millisecond before it.
  have begun : MemoryStore.serve {} (.stamped one window 1 0) =
      (some ⟨.ok true, 1⟩, ⟨[⟨one, window, [0]⟩], some 0⟩) := by
    simp [Errand.stamped, serve, recordIfBelow, sweepIfDue, find?, put, KeyEvents.prune, recorded,
      positive]
  have swept : MemoryStore.serve ⟨[⟨one, window, [0]⟩], some 0⟩ (.stamped other window 1 window) =
      (some ⟨.ok true, 1⟩, ⟨[⟨other, window, [window]⟩], some window⟩) := by
    simp [Errand.stamped, serve, recordIfBelow, sweepIfDue, sweep, find?, put, KeyEvents.prune,
      KeyEvents.expired, KeyEvents.left, recorded, ended]
  have forgotten : (MemoryStore.serve ⟨[⟨other, window, [window]⟩], some window⟩
      (.stamped one window 1 (window - 1))).1 = some ⟨.ok true, 1⟩ := by
    simp [Errand.stamped, serve, recordIfBelow, sweepIfDue, find?, put, KeyEvents.prune, recorded,
      positive, past, Ne.symm apart]
  have counted : (Ledger.served (fun _ => [])
      [.stamped one window 1 0, .stamped other window 1 window,
        .stamped one window 1 (window - 1)]).map (Option.map Receipt.answer) =
        [some (.ok true), some (.ok true), some (.ok false)] := by
    simp [Errand.stamped, Ledger.served, Ledger.serve, Ledger.live, inside,
      Function.update_of_ne apart, Function.update_of_ne (Ne.symm apart)]
  rw [counted] at same
  simp [MemoryStore.served, begun, swept, forgotten] at same

/-- A store of one key that counts `count` events behind a later one. -/
def MemoryStore.jammed (key : String) (window count : Nat) : MemoryStore where
  keys := [⟨key, window, 1 :: List.replicate count 0⟩]
  lastSweep := some 1

def Ledger.jammed (key : String) (count : Nat) : Ledger :=
  Function.update (fun _ => []) key (1 :: List.replicate count 0)

private theorem MemoryStore.jammed_served {count left : Nat} (long : 1 ≤ window)
    (short : window < lastMilli) (room : count + 1 + left = threshold) :
    ((MemoryStore.jammed one window count).served
        (List.replicate left (.stamped one window threshold 0) ++
          [.stamped one window threshold window])).map (Option.map Receipt.answer) =
      List.replicate left (some (.ok true)) ++ [some (.ok false)] := by
  have positive : window ≠ 0 := by omega
  have live : addMillis 1 window = window + 1 := by
    rw [addMillis, Nat.min_eq_left (by omega), Nat.add_comm]
  induction left generalizing count with
  | zero =>
    have past : ¬ window ≤ window - 1 := by omega
    have full : ¬ count + 1 < threshold := by omega
    simp [Errand.stamped, served, serve, jammed, recordIfBelow, sweepIfDue, find?, KeyEvents.prune,
      KeyEvents.left, live, past, full]
  | succ left ih =>
    have below : count + 1 < threshold := by omega
    have next : (MemoryStore.jammed one window count).serve (.stamped one window threshold 0) =
        (some ⟨.ok true, count + 2⟩, MemoryStore.jammed one window (count + 1)) := by
      simp [Errand.stamped, serve, jammed, recordIfBelow, sweepIfDue, find?, put, KeyEvents.prune,
        KeyEvents.left, recorded, live, positive, below, List.replicate_succ']
    simp only [List.replicate_succ, List.cons_append, served, next, List.map_cons, Option.map_some]
    rw [ih (by omega)]

private theorem Ledger.jammed_served {count left : Nat} (long : 1 ≤ window)
    (several : 2 ≤ threshold) (room : count + 1 + left = threshold) :
    ((Ledger.jammed one count).served
        (List.replicate left (.stamped one window threshold 0) ++
          [.stamped one window threshold window])).map (Option.map Receipt.answer) =
      List.replicate left (some (.ok true)) ++ [some (.ok true)] := by
  induction left generalizing count with
  | zero =>
    have below : 1 < threshold := by omega
    simp [Errand.stamped, served, serve, jammed, live, below]
  | succ left ih =>
    have below : count + 1 < threshold := by omega
    have inside : (1 :: List.replicate count 0).filter (0 < · + window) =
        1 :: List.replicate count 0 := by
      refine List.filter_eq_self.mpr fun event _ => decide_eq_true ?_
      omega
    have next : (Ledger.jammed one count).serve (.stamped one window threshold 0) =
        (some ⟨.ok true, count + 2⟩, Ledger.jammed one (count + 1)) := by
      simp only [Errand.stamped, serve, jammed, live, Option.getD_some, Function.update_self,
        inside]
      simp [below, List.replicate_succ']
    simp only [List.replicate_succ, List.cons_append, served, next, List.map_cons, Option.map_some]
    rw [ih (by omega)]

/-- A key with room for two is told that it is full by an event that has left the window, as the
store finds it behind one that has not. -/
theorem MemoryStore.not_keepsContract_jammed (listed : one ∈ keys) (several : 2 ≤ threshold)
    (long : 1 ≤ window) (short : window < lastMilli) (back : 1 ≤ slack) :
    ¬ KeepsContract Receipt.answer keys window threshold slack := by
  obtain ⟨left, room⟩ : ∃ left, 0 + 1 + left = threshold := ⟨threshold - 1, by omega⟩
  intro keeps
  have stray : Errand.Stray keys window threshold slack
      ((1 :: (List.replicate left 0 ++ [window])).map (.stamped one window threshold)) := by
    refine Errand.stray_stamped listed ?_ ?_
    · intro now member
      simp only [List.mem_cons, List.mem_append, List.mem_replicate, List.not_mem_nil,
        or_false] at member
      omega
    · simp only [List.pairwise_cons, List.pairwise_append, List.pairwise_replicate, List.mem_append,
        List.mem_cons, List.mem_replicate, List.not_mem_nil]
      refine ⟨fun now member => by omega, .inr (Nat.zero_le _), ?_, fun now member last final => ?_⟩
      · exact ⟨nofun, List.Pairwise.nil⟩
      · omega
  have same := keeps.answers stray
  have positive : window ≠ 0 := by omega
  have begun : MemoryStore.serve {} (.stamped one window threshold 1) =
      (some ⟨.ok true, 1⟩, jammed one window 0) := by
    have below : 0 < threshold := by omega
    simp [Errand.stamped, serve, jammed, recordIfBelow, sweepIfDue, find?, put, KeyEvents.prune,
      recorded, positive, below]
  have begun' : Ledger.serve (fun _ => []) (.stamped one window threshold 1) =
      (some ⟨.ok true, 1⟩, Ledger.jammed one 0) := by
    have below : 0 < threshold := by omega
    simp [Errand.stamped, Ledger.serve, Ledger.jammed, Ledger.live, below]
  simp only [List.map_cons, List.map_append, List.map_replicate, List.map_nil, MemoryStore.served,
    Ledger.served, begun, begun',
    jammed_served long short room, Ledger.jammed_served long several room] at same
  simp at same

private theorem MemoryStore.harmless_of_keepsContract (long : 1 ≤ window)
    (keeps : KeepsContract Receipt.answer keys window threshold slack) :
    Harmless keys window threshold slack := by
  by_contra harmful
  simp only [Harmless, not_or, not_and] at harmful
  obtain ⟨back, short, counted, listed, several⟩ := harmful
  have back : 1 ≤ slack := Nat.one_le_iff_ne_zero.mpr back
  have short : window < lastMilli := Nat.lt_of_not_le short
  by_cases single : threshold = 1
  · subst single
    obtain ⟨one, first, other, second, apart⟩ := Set.not_subsingleton_iff.mp (several rfl)
    exact not_keepsContract_swept apart first second long short back keeps
  · obtain ⟨one, first⟩ := Set.nonempty_iff_ne_empty.mpr listed
    exact not_keepsContract_jammed first (by omega) long short back keeps

end Refutations

/-- A store answers as it is asked to if and only if it makes no difference that time goes back. If
its answers are right, so is what it has. -/
theorem MemoryStore.keepsContract_iff {window : Nat} (long : 1 ≤ window) (keys : Set String)
    (threshold slack : Nat) :
    (KeepsContract Receipt.answer keys window threshold slack ↔
      Harmless keys window threshold slack) ∧
      (KeepsContract id keys window threshold slack ↔
        KeepsContract Receipt.answer keys window threshold slack) := by
  constructor
  · exact ⟨harmless_of_keepsContract long, keepsContract_of_harmless⟩
  · constructor
    · intro keeps world ref clock errands fresh stray
      have same := keeps world ref clock errands fresh stray
      rw [Option.map_id, List.map_id, List.map_id] at same
      rw [same]
    · intro keeps
      exact keepsContract_of_harmless (harmless_of_keepsContract long keeps)

/-- For a key with room for two, one millisecond back is too much. -/
theorem MemoryStore.not_keepsContract_one_back :
    1 ≤ 1000 ∧ ¬ KeepsContract Receipt.answer {"a"} 1000 2 1 := by
  refine ⟨by decide, fun keeps => ?_⟩
  have harmless := (keepsContract_iff (by decide : 1 ≤ 1000) {"a"} 2 1).1.mp keeps
  simp [Harmless, lastMilli] at harmless

/-- Two runs in which a moment is before the one of an earlier request. In the first the store
refuses the third request, though one event only is left in the window. In the second it admits a
third request within the window, as it has swept the first two out. -/
theorem World.receipts_out_of_order :
    let world := MemoryStore.alone
    let answers (receipts : List (Option Receipt)) : List (Option Bool) :=
      receipts.map (·.bind (·.answer.toOption))
    let jammed : List Errand := [.stamped "a" 1000 2 1, .stamped "a" 1000 2 0,
      .stamped "a" 1000 2 1000]
    let swept : List Errand := [.stamped "a" 1000 2 0, .stamped "a" 1000 2 0,
      .stamped "b" 1000 2 1000, .stamped "a" 1000 2 999]
    answers (world.receipts ⟨0⟩ ⟨0⟩ jammed) = [some true, some true, some false] ∧
      answers (Ledger.served (fun _ => []) jammed) = [some true, some true, some true] ∧
      answers (world.receipts ⟨0⟩ ⟨0⟩ swept) = [some true, some true, some true, some true] ∧
      answers (Ledger.served (fun _ => []) swept) =
        [some true, some true, some true, some false] := by
  decide

end AdmissionControl
