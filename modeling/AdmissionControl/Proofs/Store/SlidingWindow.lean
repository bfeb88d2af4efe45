import AdmissionControl.Proofs.Breaker.Frame
import AdmissionControl.Proofs.Store.Ledger
import AdmissionControl.World.Limiters

namespace AdmissionControl

/-- No interval as long as the window, its beginning left out, has more moments than the threshold. -/
def Spaced (threshold window : Nat) (moments : List Nat) : Prop :=
  ∀ finish, (moments.filter fun moment => moment ≤ finish ∧ finish < moment + window).length ≤
    threshold

theorem Spaced.concat {threshold window now : Nat} {moments : List Nat}
    (spaced : Spaced threshold window moments)
    (room : (moments.filter (now < · + window)).length < threshold) :
    Spaced threshold window (moments ++ [now]) := by
  intro finish
  rw [List.filter_append, List.length_append]
  by_cases inside : now ≤ finish ∧ finish < now + window
  · have fewer : (moments.filter fun moment => moment ≤ finish ∧ finish < moment + window).length ≤
        (moments.filter (now < · + window)).length := by
      rw [← List.countP_eq_length_filter, ← List.countP_eq_length_filter]
      apply List.countP_mono_left
      intro moment member reached
      simp only [decide_eq_true_eq] at reached ⊢
      omega
    rw [List.filter_cons_of_pos (by simpa using inside), List.filter_nil, List.length_singleton]
    omega
  · rw [List.filter_cons_of_neg (by simpa using inside), List.filter_nil, List.length_nil,
      Nat.add_zero]
    exact spaced finish

/-- What is asked of a store while its clock shows the time given. -/
inductive Errand where
  | record (request : WindowRequest) (clock : Nat)
  | purge (clock : Nat)

/-- What a request is answered, and how many events the store then has for its key. -/
structure Receipt where
  answer : StoreAnswer
  recorded : Nat

namespace Errand

/-- The moment that counts: the request's own if it brings one. -/
def moment : Errand → Nat
  | record request clock => request.now.getD clock
  | purge clock => clock

def request? : Errand → Option WindowRequest
  | record request _ => some request
  | purge _ => none

def concerns (key : String) : Errand → Bool
  | record request _ => request.key = key
  | purge _ => false

/-- Time does not go back and never reaches its last moment, and each key has its own window. -/
structure Steady (window : String → Nat) (errands : List Errand) : Prop where
  rising : (errands.map moment).Pairwise (· ≤ ·)
  shown : ∀ errand ∈ errands, errand.moment < lastMilli
  windows : ∀ errand ∈ errands, ∀ request ∈ errand.request?, request.window = window request.key

end Errand

namespace World

def memory (world : World) (ref : Ref Store) : MemoryStore :=
  match world.stores.get ref with
  | .memory store _ => store
  | .scripted _ => {}

def purge (world : World) (ref : Ref Store) : World :=
  match world.stores.get ref with
  | .memory store clock =>
    let (now, world) := world.read clock
    world.setStore ref (.memory (store.purge now).2 clock)
  | .scripted _ => world

def errand (world : World) (ref : Ref Store) (clock : Ref Clock) :
    Errand → Option Receipt × World
  | .record request now =>
    let (reply, world) := (world.setClock clock now).consult ref request
    (some ⟨reply.answer, (world.memory ref).recorded request.key⟩, world)
  | .purge now => (none, (world.setClock clock now).purge ref)

def receipts (world : World) (ref : Ref Store) (clock : Ref Clock) :
    List Errand → List (Option Receipt)
  | [] => []
  | errand :: rest =>
    let (receipt, world) := world.errand ref clock errand
    receipt :: world.receipts ref clock rest

end World

namespace Ledger

/-- A request is admitted if the window reaches back to fewer admitted ones than the threshold. -/
def errand (ledger : Ledger) : Errand → Option Receipt × Ledger
  | .record request clock =>
    let now := request.now.getD clock
    let live := (ledger.live request.window request.key now).length
    if live < request.threshold then
      (some ⟨.ok true, live + 1⟩, ledger.enter request.key [now])
    else (some ⟨.ok false, live⟩, ledger)
  | .purge _ => (none, ledger)

def receipts (ledger : Ledger) : List Errand → List (Option Receipt)
  | [] => []
  | errand :: rest =>
    let (receipt, ledger) := ledger.errand errand
    receipt :: ledger.receipts rest

end Ledger

section Tracks

variable {window : String → Nat} {ledger : Ledger} {latest : Nat} {store : MemoryStore}
  {world : World} {ref : Ref Store} {clock : Ref Clock}

theorem World.read_keeps (world : World) (clock : Ref Clock) :
    (world.read clock).1 = (world.clocks.get clock).now ∧ world.Keeps (world.read clock).2 :=
  ⟨world.readWithin_fst _ clock, (keptWithin world.steps).read world clock⟩

/-- A store records a request at the moment that the request brings, or else its clock shows. The
answer is there at once. -/
theorem World.consult_memory (holds : world.stores.get ref = .memory store clock)
    (request : WindowRequest) :
    let now := request.now.getD (world.clocks.get clock).now
    ∃ after, world.consult ref request =
        ({ answer := .ok (store.recordIfBelow request now).1 }, after) ∧
      after.stores.get ref = .memory (store.recordIfBelow request now).2.1 clock ∧
      after.limiters = world.limiters ∧ after.clocks = world.clocks ∧ after.now = world.now := by
  cases stamped : request.now with
  | some now =>
    simp only [World.consult, holds, stamped]
    exact ⟨_, rfl, Table.get_set_self _ _ _, rfl, rfl, rfl⟩
  | none =>
    obtain ⟨shown, kept⟩ := world.read_keeps clock
    simp only [World.consult, holds, stamped, shown]
    exact ⟨_, rfl, Table.get_set_self _ _ _, kept.limiters, kept.clocks, kept.now⟩

theorem World.purge_memory (holds : world.stores.get ref = .memory store clock) :
    (world.purge ref).stores.get ref =
      .memory (store.sweep (world.clocks.get clock).now) clock := by
  obtain ⟨shown, _⟩ := world.read_keeps clock
  simp only [World.purge, holds, shown]
  exact Table.get_set_self _ _ _

/-- A store does one errand after another as a ledger does. -/
theorem Tracks.errand {errand : Errand} (tracks : Tracks window ledger latest store)
    (holds : world.stores.get ref = .memory store clock) (rising : latest ≤ errand.moment)
    (shown : errand.moment < lastMilli)
    (windows : ∀ request ∈ errand.request?, request.window = window request.key) :
    (world.errand ref clock errand).1 = (ledger.errand errand).1 ∧
      ∃ after, (world.errand ref clock errand).2.stores.get ref = .memory after clock ∧
        Tracks window (ledger.errand errand).2 errand.moment after := by
  have holds' (now : Nat) : (world.setClock clock now).stores.get ref = .memory store clock := holds
  have set (now : Nat) : ((world.setClock clock now).clocks.get clock).now = now := by
    simp [World.setClock]
  cases errand with
  | purge now =>
    refine ⟨rfl, _, World.purge_memory (holds' now), ?_⟩
    rw [set]
    exact tracks.sweep rising shown
  | record request now =>
    obtain ⟨after, consulted, stored, _⟩ := World.consult_memory (holds' now) request
    rw [set] at consulted stored
    have same : window request.key = request.window := (windows request rfl).symm
    have live := tracks.live_eq_kept rising shown same
    have recorded := tracks.record rising shown (Nat.le_of_eq same)
    have answered := store.recordIfBelow_fst request (request.now.getD now)
    have counted := store.recordIfBelow_events request (request.now.getD now)
    simp only [Errand.moment] at live recorded
    simp only [World.errand, Ledger.errand, World.memory, consulted, stored, live,
      MemoryStore.recorded_eq, counted]
    by_cases below : (store.kept request (request.now.getD now)).length < request.threshold
    · simp only [below, if_true] at recorded ⊢
      exact ⟨by simp [answered, below], _, rfl, recorded⟩
    · simp only [below, if_false, Ledger.enter_nil] at recorded ⊢
      exact ⟨by simp [answered, below], _, rfl, recorded⟩

theorem Tracks.receipts {errands : List Errand} (tracks : Tracks window ledger latest store)
    (holds : world.stores.get ref = .memory store clock) (steady : Errand.Steady window errands)
    (after : ∀ errand ∈ errands, latest ≤ errand.moment) :
    world.receipts ref clock errands = ledger.receipts errands := by
  induction errands generalizing world ledger latest store with
  | nil => rfl
  | cons errand rest ih =>
    obtain ⟨rising, shown, windows⟩ := steady
    simp only [List.map_cons, List.pairwise_cons, List.forall_mem_map] at rising
    simp only [List.forall_mem_cons] at shown after windows
    obtain ⟨same, stored, holds', tracks'⟩ := tracks.errand holds after.1 shown.1 windows.1
    have others : Errand.Steady window rest := ⟨rising.2, shown.2, windows.2⟩
    simp only [World.receipts, Ledger.receipts, same]
    exact congrArg (_ :: ·) (ih tracks' holds' others rising.1)

end Tracks

section Ledger

variable {key : String} {ledger other : Ledger}

def Errand.admission? (key : String) : Errand × Option Receipt → Option Nat
  | (.record request clock, some ⟨.ok true, _⟩) =>
    if request.key = key then some (request.now.getD clock) else none
  | _ => none

private theorem Ledger.errand_other (ledger : Ledger) {errand : Errand}
    (elsewhere : errand.concerns key = false) :
    (ledger.errand errand).2 key = ledger key := by
  cases errand with
  | purge now => rfl
  | record request now =>
    have apart : key ≠ request.key := fun same => by simp [Errand.concerns, same] at elsewhere
    simp only [Ledger.errand]
    split
    · exact Ledger.enter_other _ apart _
    · rfl

private theorem Ledger.errand_same {errand : Errand} (here : errand.concerns key = true)
    (same : ledger key = other key) :
    (ledger.errand errand).1 = (other.errand errand).1 ∧
      (ledger.errand errand).2 key = (other.errand errand).2 key := by
  cases errand with
  | purge now => simp [Errand.concerns] at here
  | record request now =>
    have found : request.key = key := by simpa [Errand.concerns] using here
    simp only [Ledger.errand, Ledger.live, found, same]
    split
    · exact ⟨rfl, by simp [same]⟩
    · exact ⟨rfl, same⟩

/-- A key is answered as if it were the only one, and as if nothing were ever purged. -/
theorem Ledger.receipts_concerning (errands : List Errand) (same : ledger key = other key) :
    ((errands.zip (ledger.receipts errands)).filter (·.1.concerns key)).map (·.2) =
      other.receipts (errands.filter (·.concerns key)) := by
  induction errands generalizing ledger other with
  | nil => rfl
  | cons errand rest ih =>
    by_cases here : errand.concerns key = true
    · obtain ⟨answer, same⟩ := Ledger.errand_same here same
      simp [Ledger.receipts, here, answer, ih same]
    · have elsewhere := ledger.errand_other (Bool.eq_false_iff.mpr here)
      simp [Ledger.receipts, here, ih (elsewhere.trans same)]

private theorem Ledger.errand_admission (ledger : Ledger) (key : String) (errand : Errand) :
    (ledger.errand errand).2 key =
      ledger key ++ (Errand.admission? key (errand, (ledger.errand errand).1)).toList := by
  cases errand with
  | purge now => simp [Ledger.errand, Errand.admission?]
  | record request now =>
    simp only [Ledger.errand]
    split
    · by_cases same : request.key = key
      · subst same
        simp [Errand.admission?]
      · simp [Errand.admission?, same, Ledger.enter_other _ (Ne.symm same)]
    · simp [Errand.admission?]

private theorem Ledger.errand_spaced {window threshold : Nat} {errand : Errand}
    (spaced : Spaced threshold window (ledger key))
    (fixed : ∀ request ∈ errand.request?, request.key = key →
      request.window = window ∧ request.threshold = threshold) :
    Spaced threshold window ((ledger.errand errand).2 key) := by
  cases errand with
  | purge now => exact spaced
  | record request now =>
    simp only [Ledger.errand]
    split
    · next room =>
      by_cases same : request.key = key
      · obtain ⟨rfl, rfl⟩ := fixed request rfl same
        subst same
        simp only [Ledger.enter_self]
        exact spaced.concat room
      · simp only [Ledger.enter_other _ (Ne.symm same)]
        exact spaced
    · exact spaced

/-- The admissions of a key with one window and one threshold keep the limit. -/
theorem Ledger.receipts_spaced (ledger : Ledger) {window threshold : Nat} {errands : List Errand}
    (spaced : Spaced threshold window (ledger key))
    (fixed : ∀ errand ∈ errands, ∀ request ∈ errand.request?, request.key = key →
      request.window = window ∧ request.threshold = threshold) :
    Spaced threshold window
      (ledger key ++ (errands.zip (ledger.receipts errands)).filterMap (Errand.admission? key)) := by
  induction errands generalizing ledger with
  | nil => simpa using spaced
  | cons errand rest ih =>
    rw [List.forall_mem_cons] at fixed
    have others := ih _ (Ledger.errand_spaced spaced fixed.1) fixed.2
    rw [Ledger.errand_admission, List.append_assoc] at others
    cases admitted : Errand.admission? key (errand, (ledger.errand errand).1) with
    | none => simpa [Ledger.receipts, admitted] using others
    | some moment => simpa [Ledger.receipts, admitted] using others

end Ledger

/-- A store in memory is an exact sliding window for each key. It answers as the ledger does, each
key as if it were the only one, and never admits more than a key's threshold within its window. -/
theorem World.receipts_exact {window : String → Nat} {errands : List Errand} (world : World)
    (ref : Ref Store) (clock : Ref Clock) (fresh : world.stores.get ref = .memory {} clock)
    (steady : Errand.Steady window errands) :
    let receipts := world.receipts ref clock errands
    receipts = Ledger.receipts (fun _ => []) errands ∧
      (∀ key, ((errands.zip receipts).filter (·.1.concerns key)).map (·.2) =
        world.receipts ref clock (errands.filter (·.concerns key))) ∧
      ∀ key threshold, (∀ errand ∈ errands, ∀ request ∈ errand.request?, request.key = key →
          request.threshold = threshold) →
        Spaced threshold (window key) ((errands.zip receipts).filterMap (Errand.admission? key)) := by
  have exact (errands : List Errand) (steady : Errand.Steady window errands) :
      world.receipts ref clock errands = Ledger.receipts (fun _ => []) errands :=
    (Tracks.new window).receipts fresh steady fun _ _ => Nat.zero_le _
  refine ⟨exact errands steady, ?_, ?_⟩
  · intro key
    have fewer : Errand.Steady window (errands.filter (·.concerns key)) :=
      ⟨steady.rising.sublist (List.filter_sublist.map _),
        fun errand member => steady.shown errand (List.mem_filter.mp member).1,
        fun errand member => steady.windows errand (List.mem_filter.mp member).1⟩
    rw [exact errands steady, exact _ fewer]
    exact Ledger.receipts_concerning errands rfl
  · intro key threshold fixed
    rw [exact errands steady]
    apply Ledger.receipts_spaced (fun _ => []) (by simp [Spaced])
    intro errand member request made same
    exact ⟨same ▸ steady.windows errand member request made, fixed errand member request made same⟩

/-- Two keys with windows of 1000 and 10 milliseconds. The second key's first request brings its own
moment, and its later ones sweep the store and find their key forgotten. -/
theorem World.receipts_two_keys :
    let world : World := { clocks := ⟨#[{}]⟩, stores := ⟨#[.memory {} ⟨0⟩]⟩ }
    let slow (now : Option Nat) : WindowRequest := ⟨"slow", 1000, 2, now⟩
    let quick (now : Option Nat) : WindowRequest := ⟨"quick", 10, 1, now⟩
    let window (key : String) : Nat := if key = "slow" then 1000 else 10
    let errands : List Errand := [.record (slow none) 0, .record (quick (some 5)) 0, .purge 20,
      .record (slow none) 600, .record (quick none) 600, .record (slow none) 999,
      .record (slow none) 1000]
    let receipts := world.receipts ⟨0⟩ ⟨0⟩ errands
    world.stores.get ⟨0⟩ = .memory {} ⟨0⟩ ∧ Errand.Steady window errands ∧
      receipts.map (Option.map Receipt.recorded) = [some 1, some 1, none, some 2, some 1, some 2, some 2] ∧
      Spaced 2 1000 ((errands.zip receipts).filterMap (Errand.admission? "slow")) := by
  intro world slow quick window errands receipts
  have fresh : world.stores.get ⟨0⟩ = .memory {} ⟨0⟩ := rfl
  have steady : Errand.Steady window errands :=
    ⟨by decide, by decide, by simp [errands, slow, quick, window, Errand.request?]⟩
  have exact := World.receipts_exact world ⟨0⟩ ⟨0⟩ fresh steady
  refine ⟨fresh, steady, ?_, ?_⟩
  · simp only [receipts, exact.1]
    simp [errands, slow, quick, Ledger.receipts, Ledger.errand, Ledger.live, Ledger.enter]
  · exact exact.2.2 "slow" 2 (by simp [errands, slow, quick, Errand.request?])

end AdmissionControl
