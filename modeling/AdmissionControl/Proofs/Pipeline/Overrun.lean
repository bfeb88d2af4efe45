import AdmissionControl.Proofs.Pipeline.Limits
/-!
How a sliding window comes to let too many requests through: a shorter window under the same key
drops events that the longer one still counts. A stack of two windows is enough for that, whatever
their prefixes are.
-/

namespace AdmissionControl

namespace MemoryStore

variable {store : MemoryStore} {request : WindowRequest} {now window count : Nat}
  {old recent : List Nat} {key : String}

private theorem distinct_sweepIfDue (distinct : (store.keys.map KeyEvents.key).Nodup)
    (now window : Nat) :
    ((store.sweepIfDue now window).1.keys.map KeyEvents.key).Nodup := by
  simp only [sweepIfDue]
  split
  · exact distinct.sublist (List.filter_sublist.map _)
  · exact distinct

private theorem events_sweepIfDue (distinct : (store.keys.map KeyEvents.key).Nodup)
    (now window : Nat) (key : String) :
    ((store.sweepIfDue now window).1.events key).Sublist (store.events key) := by
  simp only [sweepIfDue]
  split
  · simp only [events, find?_sweep distinct]
    cases store.find? key with
    | none => exact List.Sublist.refl _
    | some entry =>
      by_cases expired : entry.expired now = true
      · simp [Option.filter, expired]
      · simp [Option.filter, expired]
  · exact List.Sublist.refl _

theorem kept_sublist (distinct : (store.keys.map KeyEvents.key).Nodup) :
    (store.kept request now).Sublist (store.events request.key) :=
  (List.dropWhile_sublist _).trans (events_sweepIfDue distinct now request.window request.key)

theorem kept_length_le (distinct : (store.keys.map KeyEvents.key).Nodup)
    (within : (store.events request.key).Sublist (old ++ recent))
    (gone : ∀ event ∈ old, KeyEvents.left request.window now event = true) :
    (store.kept request now).length ≤ recent.length := by
  have swept := (events_sweepIfDue distinct now request.window request.key).trans within
  obtain ⟨early, late, same, early_old, late_recent⟩ := List.sublist_append_iff.mp swept
  have past : ∀ event ∈ early, KeyEvents.left request.window now event = true :=
    fun event member => gone event (early_old.subset member)
  rw [kept, same, List.dropWhile_append_of_pos past]
  exact Nat.le_trans (List.dropWhile_sublist _).length_le late_recent.length_le

theorem distinct_record (distinct : (store.keys.map KeyEvents.key).Nodup)
    (request : WindowRequest) (now : Nat) :
    ((store.recordIfBelow request now).2.1.keys.map KeyEvents.key).Nodup := by
  obtain ⟨report, recorded⟩ := store.recordIfBelow_eq request now
  rw [recorded]
  exact put_distinct _ (distinct_sweepIfDue distinct now request.window)

private theorem events_record_other (distinct : (store.keys.map KeyEvents.key).Nodup) (now : Nat)
    (apart : request.key ≠ key) :
    ((store.recordIfBelow request now).2.1.events key).Sublist (store.events key) := by
  obtain ⟨report, recorded⟩ := store.recordIfBelow_eq request now
  have swept := events_sweepIfDue distinct now request.window key
  simp only [recorded, events, find?, find?_put, if_neg apart] at swept ⊢
  exact swept

theorem events_record (distinct : (store.keys.map KeyEvents.key).Nodup)
    (request : WindowRequest) (now : Nat) (key : String) :
    ((store.recordIfBelow request now).2.1.events key).Sublist (store.events key ++ [now]) := by
  by_cases same : request.key = key
  · subst same
    rw [recordIfBelow_events]
    apply (kept_sublist distinct).append
    split
    · exact List.Sublist.refl _
    · exact List.nil_sublist _
  · exact (events_record_other distinct now same).trans (List.sublist_append_left _ _)

theorem events_record_le (distinct : (store.keys.map KeyEvents.key).Nodup) (now : Nat)
    (limited : request.threshold ≤ count) (few : (store.events key).length ≤ count) :
    ((store.recordIfBelow request now).2.1.events key).length ≤ count := by
  by_cases same : request.key = key
  · subst same
    have pruned := (@kept_sublist store request now distinct).length_le
    rw [recordIfBelow_events, List.length_append]
    split
    · rw [List.length_singleton]
      omega
    · rw [List.length_nil]
      omega
  · exact Nat.le_trans (events_record_other distinct now same).length_le few

end MemoryStore

def Execution.keyed (world : World) (clock : Ref Clock) (call : Nat × String) : Execution where
  world := world.setClock clock call.1
  request := {}
  context := { key := some call.2 }

def executions (stack : Stack) (clock : Ref Clock) : World → List (Nat × String) → List Execution
  | _, [] => []
  | world, call :: rest =>
    let execution := Execution.keyed world clock call
    execution :: executions stack clock (execution.after stack) rest

namespace MemoryStore

def twice (store : MemoryStore) (first second : SlidingWindow) (call : Nat × String) :
    MemoryStore :=
  let between := (store.recordIfBelow (first.request call.2 none) call.1).2.1
  (between.recordIfBelow (second.request call.2 none) call.1).2.1

/-- The first of two windows has room for every call. -/
def HasRoom (first second : SlidingWindow) : MemoryStore → List (Nat × String) → Prop
  | _, [] => True
  | store, call :: rest =>
    (store.recordIfBelow (first.request call.2 none) call.1).1 = true ∧
      (store.twice first second call).HasRoom first second rest

end MemoryStore

namespace World

private theorem pass_last (world : World) (ref : Ref Store) (request : Request) (stage : Stage) :
    (world.face stage).2.Spares ref (world.pass request [stage]).2 := by
  cases faced : world.face stage with
  | mk held after =>
  cases held with
  | none => exact (pass_stopped faced).2
  | some held =>
    rw [pass_through faced]
    exact Spares.endures.handle _ _

variable {ref : Ref Store} {clock : Ref Clock} {one two : Ref Limiter} {first second : SlidingWindow}
  {world : World} {store : MemoryStore} {limit : Nat} {call : Nat × String} {key : String}

structure Paired (ref : Ref Store) (clock : Ref Clock) (one two : Ref Limiter)
    (first second : SlidingWindow) (world : World) (store : MemoryStore) : Prop where
  holds : world.stores.get ref = .memory store clock
  opening : (world.limiters.get one).window? = some (first, ref, none)
  closing : (world.limiters.get two).window? = some (second, ref, none)

private theorem Paired.execute (paired : Paired ref clock one two first second world store)
    (room : (store.recordIfBelow (first.request call.2 none) call.1).1 = true) :
    let execution := Execution.keyed world clock call
    let stack : Stack := { limiters := [one, two] }
    (∀ key, execution.passes stack 0 key = decide (call.2 = key)) ∧
      Paired ref clock one two first second (execution.after stack)
        (store.twice first second call) ∧
      ((execution.after stack).clocks.get clock).now = call.1 := by
  intro execution stack
  have holds : execution.world.stores.get ref = .memory store clock := paired.holds
  have shown : (execution.world.clocks.get clock).now = call.1 :=
    congrArg Clock.now (Table.get_set_self _ _ _)
  obtain ⟨through, stored, windows, clocks⟩ := face_present holds paired.opening
    (rfl : execution.context.abandoned? execution.world.tokens execution.world.now = none)
  cases faced : execution.world.face (.limiter one execution.context) with
  | mk held middle =>
  have recorded : (store.recordIfBelow (first.request execution.context.windowKey none)
      call.1).1 = true := room
  rw [faced] at through stored windows clocks
  rw [shown] at through stored
  rw [recorded] at through
  obtain ⟨held, rfl⟩ := Option.isSome_iff_exists.mp through
  have still : (middle.clocks.get clock).now = call.1 := by rw [clocks, shown]
  obtain ⟨-, stored, windows', clocks'⟩ := face_present stored
    ((windows two).trans paired.closing)
    (rfl : execution.context.abandoned? middle.tokens middle.now = none)
  have spared := middle.pass_last ref (execution.request.hold held)
    (.limiter two execution.context)
  have passed : execution.after stack =
      (middle.pass (execution.request.hold held) [.limiter two execution.context]).2 :=
    congrArg Prod.snd (pass_through faced)
  have reached : execution.world.lets execution.request (execution.stages stack) 0 = true :=
    (congrArg (·.1.called) (pass_through faced)).trans (handle_called _ _)
  rw [passed]
  refine ⟨?_, ⟨?_, ?_, ?_⟩, ?_⟩
  · intro key
    simp only [Execution.passes, reached, and_true]
    rfl
  · rw [spared.store, stored, still]
    rfl
  · rw [spared.windows, windows', windows]
    exact paired.opening
  · rw [spared.windows, windows', windows]
    exact paired.closing
  · rw [spared.clocks, clocks', still]

theorem Between.setClock {now : Nat} (rising : (world.clocks.get clock).now ≤ now)
    (shown : now < limit) : world.Between ref clock limit (world.setClock clock now) := by
  have set : ((world.setClock clock now).clocks.get clock).now = now :=
    congrArg Clock.now (Table.get_set_self _ _ _)
  exact ⟨rfl, fun _ => rfl, Nat.le_trans rising (Nat.le_of_eq set.symm),
    Nat.lt_of_le_of_lt (Nat.le_of_eq set) shown⟩

/-- As long as there is room, the first window lets every call through. -/
theorem Paired.run {calls : List (Nat × String)}
    (paired : Paired ref clock one two first second world store)
    (room : store.HasRoom first second calls)
    (rising : ((world.clocks.get clock).now :: calls.map Prod.fst).Pairwise (· ≤ ·))
    (shown : ∀ call ∈ calls, call.1 < limit) :
    let stack : Stack := { limiters := [one, two] }
    world.Run ref clock limit stack (executions stack clock world calls) ∧
      passages stack clock 0 key (executions stack clock world calls) =
        (calls.filter (·.2 = key)).map Prod.fst := by
  intro stack
  induction calls generalizing world store with
  | nil => exact ⟨trivial, rfl⟩
  | cons call rest ih =>
    obtain ⟨passes, after, still⟩ := paired.execute room.1
    rw [List.map_cons, List.pairwise_cons] at rising
    rw [List.forall_mem_cons] at shown
    have now : (Execution.keyed world clock call).moment clock = call.1 :=
      congrArg Clock.now (Table.get_set_self _ _ _)
    have first : world.Between ref clock limit (Execution.keyed world clock call).world :=
      .setClock (rising.1 call.1 List.mem_cons_self) shown.1
    obtain ⟨others, passed⟩ := ih after room.2 (by rw [still]; exact rising.2) shown.2
    refine ⟨⟨first, others⟩, ?_⟩
    change passages stack clock 0 key (_ :: executions stack clock _ rest) = _
    rw [passages_cons, passes key, now, passed]
    by_cases same : call.2 = key <;> simp [same]

end World

end AdmissionControl
