import AdmissionControl.Proofs.Pipeline.SharedStore

namespace AdmissionControl

structure Execution where
  world : World
  request : Request
  context : Context

namespace Execution

def stages (execution : Execution) (stack : Stack) : List Stage :=
  Pipeline.stackStages execution.context stack

def after (execution : Execution) (stack : Stack) : World :=
  (execution.world.pass execution.request (execution.stages stack)).2

def moment (execution : Execution) (clock : Ref Clock) : Nat :=
  (execution.world.clocks.get clock).now

/-- It has the key, and the stage lets it through. -/
def passes (execution : Execution) (stack : Stack) (place : Nat) (key : String) : Bool :=
  execution.context.windowKey = key ∧
    execution.world.lets execution.request (execution.stages stack) place

end Execution

namespace World

/-- What may happen between two executions: anything that leaves the store alone and keeps the
sliding windows as they are, while the store's clock does not go back and stays before a moment. -/
structure Between (ref : Ref Store) (clock : Ref Clock) (limit : Nat) (world later : World) :
    Prop where
  store : later.stores.get ref = world.stores.get ref
  windows : ∀ limiter, (later.limiters.get limiter).window? = (world.limiters.get limiter).window?
  rising : (world.clocks.get clock).now ≤ (later.clocks.get clock).now
  shown : (later.clocks.get clock).now < limit

def Run (ref : Ref Store) (clock : Ref Clock) (limit : Nat) (stack : Stack) :
    World → List Execution → Prop
  | _, [] => True
  | world, execution :: rest =>
    world.Between ref clock limit execution.world ∧
      (execution.after stack).Run ref clock limit stack rest

end World

/-- The moments at which a stage lets requests with a key through. -/
def passages (stack : Stack) (clock : Ref Clock) (place : Nat) (key : String)
    (executions : List Execution) : List Nat :=
  (executions.filter (·.passes stack place key)).map (·.moment clock)

theorem passages_cons (stack : Stack) (clock : Ref Clock) (place : Nat) (key : String)
    (execution : Execution) (rest : List Execution) :
    passages stack clock place key (execution :: rest) =
      if execution.passes stack place key then
        execution.moment clock :: passages stack clock place key rest
      else passages stack clock place key rest := by
  by_cases passed : execution.passes stack place key = true <;> simp [passages, passed]

namespace World

variable {bound : String → Nat} {ledger : Ledger} {latest place : Nat} {store : MemoryStore}
  {world : World} {ref : Ref Store} {clock : Ref Clock} {stack : Stack} {limiter : Ref Limiter}
  {window : SlidingWindow} {key : String}

/-- A run keeps the limit of a stage if no stage that may meet its key there has a shorter window.
The moments at which it lets requests through are on the ledger, among those of other stages. -/
theorem run_spaced {executions : List Execution} (tracks : Tracks bound ledger latest store)
    (holds : world.stores.get ref = .memory store clock)
    (rising : latest ≤ (world.clocks.get clock).now)
    (suits : ∀ context, ∀ stage ∈ Pipeline.stackStages context stack, world.Suits bound ref stage)
    (found : stack.limiters[place]? = some limiter)
    (sliding : (world.limiters.get limiter).window? = some (window, ref, none))
    (whole : bound (window.keyPrefix ++ key) = window.window.wholeMillis)
    (run : world.Run ref clock lastMilli stack executions) {earlier : List Nat}
    (listed : earlier.Sublist (ledger (window.keyPrefix ++ key)))
    (spaced : Spaced window.threshold window.window.wholeMillis earlier) :
    Spaced window.threshold window.window.wholeMillis
      (earlier ++ passages stack clock place key executions) := by
  induction executions generalizing world ledger latest store earlier with
  | nil => simpa [passages] using spaced
  | cons execution rest ih =>
    obtain ⟨between, others⟩ := run
    have reached := Nat.le_trans rising between.rising
    have held : ∀ stage ∈ execution.stages stack, execution.world.Suits bound ref stage :=
      fun stage member => (suits execution.context stage member).of_windows between.windows
    obtain ⟨later, ⟨⟨store, stored, tracked⟩, windows, clocks, grows⟩, counted⟩ :=
      pass_advances execution.request (execution.stages stack) tracks (between.store.trans holds)
        reached between.shown held
    have same (limiter : Ref Limiter) : ((execution.after stack).limiters.get limiter).window? =
        (world.limiters.get limiter).window? := (windows limiter).trans (between.windows limiter)
    have rest_suits := fun context stage member => (suits context stage member).of_windows same
    have still : execution.moment clock ≤ ((execution.after stack).clocks.get clock).now :=
      Nat.le_of_eq (by rw [Execution.moment, Execution.after, clocks])
    have next {moments : List Nat} (listed : moments.Sublist (later (window.keyPrefix ++ key)))
        (spaced : Spaced window.threshold window.window.wholeMillis moments) :=
      ih tracked stored still rest_suits ((same limiter).trans sliding) others listed spaced
    by_cases through : execution.passes stack place key = true
    · obtain ⟨keyed, passed⟩ : execution.context.windowKey = key ∧
        execution.world.lets execution.request (execution.stages stack) place = true := by
        simpa [Execution.passes] using through
      have staged : (execution.stages stack)[place]? =
          some (.limiter limiter execution.context) := by
        rw [Execution.stages, Pipeline.stackStages, List.getElem?_append_left, List.getElem?_map,
          found]
        · rfl
        · rw [List.length_map]
          exact (List.getElem?_eq_some_iff.mp found).1
      obtain ⟨room, entered⟩ := counted place limiter execution.context window staged
        ((between.windows limiter).trans sliding) passed
      rw [windowKey, keyed] at entered room
      rw [whole] at room
      have fewer :=
        (listed.filter (execution.moment clock < · + window.window.wholeMillis)).length_le
      have joined := next ((listed.append_right [execution.moment clock]).trans entered)
        (spaced.concat (Nat.lt_of_le_of_lt fewer room))
      rw [List.append_assoc] at joined
      rw [passages_cons, if_pos through]
      exact joined
    · rw [passages_cons, if_neg through]
      exact next (listed.trans (grows _)) spaced

end World

end AdmissionControl
