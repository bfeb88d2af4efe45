import AdmissionControl.Proofs.Pipeline.Passing

namespace AdmissionControl

namespace World

variable {bound : String → Nat} {ledger : Ledger} {latest : Nat} {store : MemoryStore}
  {world : World} {ref : Ref Store} {clock : Ref Clock}

/-- The key under which a sliding window has a request counted. -/
def windowKey (window : SlidingWindow) (context : Context) : String :=
  window.keyPrefix ++ context.windowKey

/-- A stage that is a sliding window has the shared store, without a clock of its own, and no window
that is too short for the key. -/
def Suits (bound : String → Nat) (ref : Ref Store) (world : World) : Stage → Prop
  | .limiter limiter context => ∀ window store clock,
    (world.limiters.get limiter).window? = some (window, store, clock) →
      store = ref ∧ clock = none ∧ bound (windowKey window context) ≤ window.window.wholeMillis
  | .breaker _ => True

/-- What a store tells of a sliding window that lets a request through: there was room, and now the
request is on the ledger. -/
def Counted (ledger after : Ledger) (bound : String → Nat) (now : Nat) (window : SlidingWindow)
    (context : Context) : Prop :=
  let key := windowKey window context
  (ledger.live (bound key) key now).length < window.threshold ∧
    (ledger key ++ [now]).Sublist (after key)

/-- A store and its ledger have gone on together, while the windows stayed as they were and no time
passed. -/
structure Advances (bound : String → Nat) (ref : Ref Store) (clock : Ref Clock)
    (world after : World) (ledger later : Ledger) : Prop where
  tracks : ∃ store, after.stores.get ref = .memory store clock ∧
    Tracks bound later (world.clocks.get clock).now store
  windows : ∀ limiter, (after.limiters.get limiter).window? = (world.limiters.get limiter).window?
  clocks : after.clocks = world.clocks
  grows : ∀ key, (ledger key).Sublist (later key)

private theorem Advances.of_spares {after : World} (tracks : Tracks bound ledger latest store)
    (holds : world.stores.get ref = .memory store clock)
    (rising : latest ≤ (world.clocks.get clock).now) (spared : world.Spares ref after) :
    Advances bound ref clock world after ledger ledger where
  tracks := ⟨store, spared.store.trans holds, tracks.later rising store.lastSweep⟩
  windows := spared.windows
  clocks := spared.clocks
  grows := fun key => List.Sublist.refl (ledger key)

private theorem face_advances (stage : Stage) (tracks : Tracks bound ledger latest store)
    (holds : world.stores.get ref = .memory store clock)
    (rising : latest ≤ (world.clocks.get clock).now)
    (shown : (world.clocks.get clock).now < lastMilli) (suits : world.Suits bound ref stage) :
    ∃ later, Advances bound ref clock world (world.face stage).2 ledger later ∧
      ∀ limiter context window, stage = .limiter limiter context →
        (world.limiters.get limiter).window? = some (window, ref, none) →
        (world.face stage).1.isSome →
        Counted ledger later bound (world.clocks.get clock).now window context := by
  cases stage with
  | breaker circuit =>
    exact ⟨ledger, .of_spares tracks holds rising (face_breaker world circuit), by simp⟩
  | limiter limiter context =>
    cases sliding : (world.limiters.get limiter).window? with
    | none =>
      refine ⟨ledger, .of_spares tracks holds rising (face_elsewhere sliding), ?_⟩
      intro _ _ _ same listed
      cases same
      exact absurd (sliding.symm.trans listed) (by simp)
    | some held =>
      obtain ⟨window, store', stamps⟩ := held
      obtain ⟨rfl, rfl, bounded⟩ := suits window store' stamps sliding
      rcases face_window holds context sliding with
        ⟨stopped, spared⟩ | ⟨granted, stored, windows, clocks⟩
      · exact ⟨ledger, .of_spares tracks holds rising spared, by simp [stopped]⟩
      · have bounded : bound (window.request context.windowKey none).key ≤
          (window.request context.windowKey none).window := bounded
        have found := tracks.live_le_kept rising shown bounded
        refine ⟨_, ⟨⟨_, stored, tracks.record rising shown bounded⟩, windows, clocks, ?_⟩, ?_⟩
        · intro key
          exact ledger.sublist_enter _ _ _
        · intro _ _ _ same listed passed
          cases same
          cases listed.symm.trans sliding
          rw [granted, MemoryStore.recordIfBelow_fst, decide_eq_true_iff] at passed
          refine ⟨Nat.lt_of_le_of_lt found passed, ?_⟩
          rw [if_pos passed]
          have entered := ledger.enter_self (windowKey window context)
            [(world.clocks.get clock).now]
          exact entered ▸ List.Sublist.refl _

theorem Suits.of_windows {after : World} {stage : Stage} (suits : world.Suits bound ref stage)
    (windows : ∀ limiter, (after.limiters.get limiter).window? = (world.limiters.get limiter).window?) :
    after.Suits bound ref stage := by
  cases stage with
  | breaker circuit => trivial
  | limiter limiter context =>
    intro window store clock listed
    rw [windows] at listed
    exact suits window store clock listed

theorem Advances.trans {middle after : World} {later last : Ledger}
    (first : Advances bound ref clock world middle ledger later)
    (second : Advances bound ref clock middle after later last) :
    Advances bound ref clock world after ledger last where
  tracks := by
    obtain ⟨store, holds, tracks⟩ := second.tracks
    rw [first.clocks] at tracks
    exact ⟨store, holds, tracks⟩
  windows := fun limiter => (second.windows limiter).trans (first.windows limiter)
  clocks := second.clocks.trans first.clocks
  grows := fun key => (first.grows key).trans (second.grows key)

/-- A count is as good for a ledger that is shorter before and longer after. -/
theorem Counted.widen {before after last : Ledger} {now : Nat} {window : SlidingWindow}
    {context : Context} (counted : Counted ledger after bound now window context)
    (earlier : ∀ key, (before key).Sublist (ledger key))
    (later : ∀ key, (after key).Sublist (last key)) :
    Counted before last bound now window context := by
  obtain ⟨room, listed⟩ := counted
  refine ⟨Nat.lt_of_le_of_lt ?_ room, ?_⟩
  · exact ((earlier _).filter _).length_le
  · exact (((earlier _).append_right _).trans listed).trans (later _)

/-- Whether a stage lets a request through: the request would reach its handler if no stages
followed. -/
def lets (world : World) (request : Request) (stages : List Stage) (place : Nat) : Bool :=
  (world.pass request (stages.take (place + 1))).1.called

/-- A request that reaches its handler was let through by every stage. -/
theorem lets_of_called {request : Request} {stages : List Stage}
    (called : (world.pass request stages).1.called = true) (place : Nat) :
    world.lets request stages place = true := by
  induction stages generalizing world request place with
  | nil => exact called
  | cons stage rest ih =>
    cases faced : world.face stage with
    | mk held after =>
    cases held with
    | none =>
      rw [(@pass_stopped ⟨0⟩ _ _ _ _ _ faced).1] at called
      cases called
    | some held =>
      rw [lets, List.take_succ_cons, pass_through faced]
      rw [pass_through faced] at called
      cases place with
      | zero => exact handle_called after _
      | succ place => exact ih called place

theorem pass_advances (request : Request) (stages : List Stage)
    (tracks : Tracks bound ledger latest store)
    (holds : world.stores.get ref = .memory store clock)
    (rising : latest ≤ (world.clocks.get clock).now)
    (shown : (world.clocks.get clock).now < lastMilli)
    (suits : ∀ stage ∈ stages, world.Suits bound ref stage) :
    ∃ later, Advances bound ref clock world (world.pass request stages).2 ledger later ∧
      ∀ place limiter context window, stages[place]? = some (.limiter limiter context) →
        (world.limiters.get limiter).window? = some (window, ref, none) →
        world.lets request stages place →
        Counted ledger later bound (world.clocks.get clock).now window context := by
  induction stages generalizing world request ledger latest store with
  | nil => exact ⟨ledger, .of_spares tracks holds rising (Spares.endures.handle _ _), by simp⟩
  | cons stage rest ih =>
    rw [List.forall_mem_cons] at suits
    obtain ⟨middle, advanced, counted⟩ := face_advances stage tracks holds rising shown suits.1
    obtain ⟨store, stored, tracked⟩ := advanced.tracks
    cases faced : world.face stage with
    | mk held after =>
    rw [faced] at advanced counted stored
    rw [← advanced.clocks] at tracked shown
    cases held with
    | none =>
      refine ⟨middle, ?_, ?_⟩
      · exact advanced.trans (.of_spares tracked stored (Nat.le_refl _) (pass_stopped faced).2)
      · intro place _ _ _ _ _ reached
        rw [lets, List.take_succ_cons, (@pass_stopped ref _ _ _ _ _ faced).1] at reached
        cases reached
    | some held =>
      have others := fun stage member => (suits.2 stage member).of_windows advanced.windows
      obtain ⟨later, followed, later_counted⟩ :=
        ih (request.hold held) tracked stored (Nat.le_refl _) shown others
      rw [pass_through faced]
      refine ⟨later, advanced.trans followed, ?_⟩
      intro place limiter context window found listed reached
      cases place with
      | zero =>
        simp only [List.getElem?_cons_zero, Option.some.injEq] at found
        exact (counted limiter context window found listed rfl).widen
          (fun _ => List.Sublist.refl _) followed.grows
      | succ place =>
        rw [List.getElem?_cons_succ] at found
        rw [lets, List.take_succ_cons, pass_through faced] at reached
        rw [← advanced.clocks]
        rw [← advanced.windows] at listed
        exact (later_counted place limiter context window found listed reached).widen
          advanced.grows fun _ => List.Sublist.refl _

end World

end AdmissionControl
