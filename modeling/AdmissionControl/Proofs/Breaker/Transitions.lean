import AdmissionControl.Proofs.Breaker.Rounds
/-!
What a breaker tells of its transitions. Whoever makes one tells of it, but an opening is told only
when the clock has been read for its timestamp, and by then others may have been told of. So there
is no order to rely on. What holds at every moment is a balance: of the transitions that have been
told, and those of callers who are held up, a state has been entered as often as it has been left,
but for the first state and the present one.
-/

namespace AdmissionControl

abbrev Move := CircuitState × CircuitState

def Notice.move? : Notice → Option Move
  | tripped .. => some (.closed, .opened)
  | trialFailed _ => some (.halfOpen, .opened)
  | halfOpened => some (.opened, .halfOpen)
  | closed => some (.halfOpen, .closed)
  | trialStarted .. | rejected => none

def Opening.move : Opening → Move
  | tripped _ => (.closed, .opened)
  | trialFailed => (.halfOpen, .opened)

/-- The transition of which a caller has yet to tell. -/
def HeldUp.move? : HeldUp → Option Move
  | asking .. => none
  | opening begun _ => some begun.move

/-- Each state is entered as often as it is left, but for the one in which it begins and the one in
which it ends. -/
def Move.Balance (moves : List Move) (first last : CircuitState) : Prop :=
  ∀ state, moves.countP (·.2 = state) + (if first = state then 1 else 0) =
    moves.countP (·.1 = state) + if last = state then 1 else 0

namespace Move.Balance

variable {moves others : List Move} {first middle last : CircuitState}

private theorem nil (state : CircuitState) : Balance [] state state := fun _ => rfl

private theorem single (first last : CircuitState) : Balance [(first, last)] first last := by
  intro state
  simp [List.countP_cons, Nat.add_comm]

private theorem append (one : Balance moves first middle) (other : Balance others middle last) :
    Balance (moves ++ others) first last := by
  intro state
  have entered := one state
  have left := other state
  rw [List.countP_append, List.countP_append]
  omega

private theorem perm (balance : Balance moves first last) (same : others.Perm moves) :
    Balance others first last := by
  intro state
  rw [same.countP_eq, same.countP_eq]
  exact balance state

end Move.Balance

namespace Breaker

variable {breaker : Breaker}

/-- What a step tells is the transition that it makes, if it makes one. -/
def Tells (breaker after : Breaker) (notices : List Notice) : Prop :=
  Move.Balance (notices.filterMap Notice.move?) breaker.word.state after.word.state

private theorem inquire_tells (breaker : Breaker) :
    breaker.Tells breaker.inquire.1 breaker.inquire.2.1 := by
  cases state : breaker.word.state with
  | closed =>
    rw [inquire_closed state]
    exact .nil _
  | opened =>
    rw [inquire_opened state]
    exact .nil _
  | halfOpen =>
    by_cases full : breaker.settings.halfOpenMaxCalls ≤ breaker.trials
    · rw [inquire_full state full]
      exact .nil _
    · rw [inquire_free state full]
      exact .nil _

private theorem timed_tells {seen : Word} (saw : seen.state = .opened) (breaker : Breaker)
    (openedAt now : Nat) :
    breaker.Tells (breaker.timed seen openedAt now).1 (breaker.timed seen openedAt now).2.1 := by
  simp only [timed]
  split
  · exact .nil _
  · split
    · split
      · next same =>
        have opened : breaker.word.state = .opened := by
          rw [← saw, ← same]
        have begun := Move.Balance.single breaker.word.state .halfOpen
        rw [opened] at begun
        rw [Tells, opened]
        exact begun
      · exact .nil _
    · exact .nil _

private theorem succeed_tells (breaker : Breaker) (permit : Permit) :
    breaker.Tells (breaker.succeed permit).1 (breaker.succeed permit).2 := by
  cases permit with
  | ordinary =>
    simp only [succeed]
    split <;> exact .nil _
  | trial round =>
    simp only [succeed]
    split
    · next current =>
      rw [Tells, current]
      exact .single .halfOpen .closed
    · exact .nil _

private theorem discard_state (breaker : Breaker) (permit : Permit) :
    (breaker.discard permit).word.state = breaker.word.state := by
  cases permit with
  | ordinary => rfl
  | trial round =>
    simp only [discard]
    split <;> rfl

private theorem fail_moves (breaker : Breaker) (permit : Permit) :
    Move.Balance ((breaker.fail permit).2.toList.map Opening.move) breaker.word.state
      (breaker.fail permit).1.word.state := by
  cases permit with
  | ordinary =>
    simp only [fail]
    split
    · next closed =>
      split
      · exact .nil _
      · rw [closed]
        exact .single .closed .opened
    · exact .nil _
  | trial round =>
    simp only [fail]
    split
    · next current =>
      rw [current]
      exact .single .halfOpen .opened
    · exact .nil _

private theorem stamp_moves (breaker : Breaker) (opening : Opening) (now : Nat) :
    (breaker.stamp opening now).2.filterMap Notice.move? = [opening.move] := by
  cases opening <;> rfl

end Breaker

def Call.refused (call : Call) : Bool :=
  match call.answer with
  | some (.error _) => true
  | _ => false

private theorem Call.timed_refused (now place : Nat) (record : List Call) :
    (record.modify place (timed now)).countP refused = record.countP refused := by
  induction record generalizing place with
  | nil => simp
  | cons call rest ih =>
    cases place with
    | zero => rfl
    | succ place => simp [List.countP_cons, ih]

namespace Scene

def moves (scene : Scene) : List Move :=
  scene.notices.filterMap Notice.move? ++ scene.heldUp.filterMap HeldUp.move?

/-- What happens between two scenes: transitions from one state to the other, and refusals of which
each is told. -/
structure Goes (scene after : Scene) : Prop where
  saw : ∀ caller ∈ after.heldUp, caller ∈ scene.heldUp ∨ caller.SawOpen
  moves : ∃ more, after.moves.Perm (scene.moves ++ more) ∧
    Move.Balance more scene.breaker.word.state after.breaker.word.state
  refusals : ∃ refusals, after.notices.count .rejected = scene.notices.count .rejected + refusals ∧
    after.record.countP Call.refused = scene.record.countP Call.refused + refusals

variable {scene middle after : Scene} {breaker : Breaker} {notices : List Notice}
  {outer : List HeldUp}

namespace Goes

theorem refl (scene : Scene) : scene.Goes scene where
  saw _ member := .inl member
  moves := ⟨[], by simp, .nil _⟩
  refusals := ⟨0, rfl, rfl⟩

theorem trans (first : scene.Goes middle) (second : middle.Goes after) : scene.Goes after where
  saw caller member := (second.saw caller member).elim (first.saw caller) .inr
  moves := by
    obtain ⟨moves, told, balance⟩ := first.moves
    obtain ⟨more, later, rest⟩ := second.moves
    refine ⟨moves ++ more, later.trans ?_, balance.append rest⟩
    rw [← List.append_assoc]
    exact told.append_right more
  refusals := by
    obtain ⟨refusals, notices, record⟩ := first.refusals
    obtain ⟨more, later, rest⟩ := second.refusals
    exact ⟨refusals + more, by rw [later, notices, Nat.add_assoc],
      by rw [rest, record, Nat.add_assoc]⟩

private theorem change (tells : scene.breaker.Tells breaker notices)
    (others : .rejected ∉ notices) :
    scene.Goes (scene.change breaker notices) where
  saw _ member := .inl member
  moves := by
    refine ⟨notices.filterMap Notice.move?, ?_, tells⟩
    simp only [Scene.moves, Scene.change, List.filterMap_append, List.append_assoc]
    exact List.perm_append_comm.append_left _
  refusals := ⟨0, by simp [Scene.change, List.count_eq_zero.mpr others], rfl⟩

private theorem answer (scene : Scene) (now : Nat) (permit : Permit) :
    scene.Goes (scene.answer now (.ok permit)) where
  saw _ member := .inl member
  moves := ⟨[], by simp [Scene.moves, Scene.answer], .nil _⟩
  refusals := ⟨0, rfl, by simp [Scene.answer, Call.refused]⟩

private theorem refuse (scene : Scene) (now : Nat) (refusal : CircuitOpen) :
    scene.Goes ((scene.change scene.breaker [.rejected]).answer now (.error refusal)) where
  saw _ member := .inl member
  moves := by
    refine ⟨[], ?_, .nil _⟩
    have untold : [Notice.rejected].filterMap Notice.move? = [] := rfl
    simp [Scene.moves, Scene.answer, Scene.change, untold]
  refusals := ⟨1, by simp [Scene.answer, Scene.change],
    by simp [Scene.answer, Call.refused, Scene.change]⟩

private theorem resume {seen : Word} {openedAt readings : Nat}
    (heldUp : scene.heldUp = .asking seen openedAt readings :: outer) :
    scene.Goes { scene with heldUp := outer } where
  saw _ member := .inl (heldUp ▸ List.mem_cons_of_mem _ member)
  moves := by
    refine ⟨[], ?_, .nil _⟩
    simp only [Scene.moves, heldUp, List.append_nil]
    exact .refl _
  refusals := ⟨0, rfl, rfl⟩

end Goes

private theorem inquire_goes (scene : Scene) (now readings : Nat) :
    scene.Goes (scene.inquire now readings) := by
  cases state : scene.breaker.word.state with
  | closed =>
    have same : scene.Goes (scene.change scene.breaker []) := .change (.nil _) List.not_mem_nil
    simp only [inquire, Breaker.inquire_closed state]
    exact same.trans (.answer _ now .ordinary)
  | opened =>
    simp only [inquire, Breaker.inquire_opened state]
    constructor
    case saw =>
      intro caller member
      rcases List.mem_cons.mp member with rfl | outer
      · exact .inr state
      · exact .inl outer
    case moves =>
      refine ⟨[], ?_, .nil _⟩
      simp only [moves, change, List.append_nil]
      exact .refl _
    case refusals => exact ⟨0, by simp [change], rfl⟩
  | halfOpen =>
    by_cases full : scene.breaker.settings.halfOpenMaxCalls ≤ scene.breaker.trials
    · simp only [inquire, Breaker.inquire_full state full]
      exact .refuse scene now _
    · have taken := scene.breaker.inquire_tells
      rw [Breaker.inquire_free state full] at taken
      have changed := Goes.change taken (by simp)
      simp only [inquire, Breaker.inquire_free state full]
      exact changed.trans (.answer _ now _)

/-- A permit comes back. The transition that it makes is told at once, or by a caller who is held up
until it has read the clock. -/
theorem giveBack_goes (scene : Scene) (permit : Permit) (place : Nat) (verdict : Verdict) :
    scene.Goes (scene.giveBack permit place verdict) := by
  cases verdict with
  | success =>
    exact .change (scene.breaker.succeed_tells permit) (scene.breaker.rejected_notMem_succeed permit)
  | none =>
    have quiet : scene.breaker.Tells (scene.breaker.discard permit) [] := by
      rw [Breaker.Tells, Breaker.discard_state]
      exact .nil _
    exact .change quiet List.not_mem_nil
  | failure =>
    have balance := scene.breaker.fail_moves permit
    simp only [giveBack]
    cases failed : scene.breaker.fail permit with
    | mk breaker opening? =>
    rw [failed] at balance
    cases opening? with
    | none => exact .change balance List.not_mem_nil
    | some opening =>
      constructor
      case saw =>
        intro caller member
        rcases List.mem_cons.mp member with rfl | outer
        · exact .inr trivial
        · exact .inl outer
      case moves =>
        refine ⟨[opening.move], ?_, balance⟩
        simp only [moves, change, List.append_nil, List.append_assoc]
        exact (List.perm_append_singleton _ _).symm.append_left _
      case refusals => exact ⟨0, by simp [change], rfl⟩

private theorem settle_goes (scene : Scene) (caller : Nat) (verdict : Verdict) :
    scene.Goes (scene.settle caller verdict) := by
  have noted : scene.Goes { scene with
      permits := scene.permits.set caller none
      record := scene.record ++ [⟨.settle caller verdict 0, none⟩] } := by
    refine ⟨fun _ member => .inl member, ⟨[], ?_, .nil _⟩, ⟨0, rfl, ?_⟩⟩
    · simp [moves]
    · simp [Call.refused]
  simp only [settle]
  split
  · exact noted
  · exact noted.trans (giveBack_goes _ _ _ verdict)

private theorem read_goes (saw : ∀ caller ∈ scene.heldUp, caller.SawOpen) (now : Nat) :
    scene.Goes (scene.read now) := by
  cases heldUp : scene.heldUp with
  | nil =>
    simp only [read, heldUp]
    exact .refl scene
  | cons caller outer =>
    rw [heldUp, List.forall_mem_cons] at saw
    cases caller with
    | opening opening place =>
      obtain ⟨-, word, -⟩ := scene.breaker.stamp_keeps opening now
      have told := scene.breaker.stamp_moves opening now
      simp only [read, heldUp]
      constructor
      case saw => exact fun _ member => .inl (heldUp ▸ List.mem_cons_of_mem _ member)
      case moves =>
        refine ⟨[], ?_, word ▸ .nil _⟩
        simp only [moves, change, heldUp, List.filterMap_append, told, List.append_nil,
          List.append_assoc, List.singleton_append]
        exact .refl _
      case refusals =>
        refine ⟨0, ?_, Call.timed_refused now place scene.record⟩
        cases opening <;> simp [change, Breaker.stamp]
    | asking seen openedAt readings =>
      have resumed := Goes.resume heldUp
      have tells := Breaker.timed_tells saw.1 scene.breaker openedAt now
      by_cases early : now - openedAt < scene.breaker.settings.recoveryMillis
      · simp only [read, heldUp, Breaker.timed_early early]
        exact resumed.trans (.refuse _ now _)
      · obtain ⟨others, again⟩ := Breaker.timed_again seen early
        rw [read_again heldUp (Prod.ext rfl (Prod.ext rfl again))]
        exact (resumed.trans (.change tells others)).trans (inquire_goes _ now _)

theorem step_goes (saw : ∀ caller ∈ scene.heldUp, caller.SawOpen) (turn : Turn) :
    scene.Goes (scene.step turn) := by
  cases turn with
  | ask => exact scene.inquire_goes 0 0
  | settle caller verdict => exact scene.settle_goes caller verdict
  | read now => exact read_goes saw now

theorem run_goes (saw : ∀ caller ∈ scene.heldUp, caller.SawOpen) (turns : List Turn) :
    scene.Goes (scene.run turns) := by
  induction turns generalizing scene with
  | nil => exact .refl scene
  | cons turn rest ih =>
    have stepped := step_goes saw turn
    exact stepped.trans (ih fun caller member => (stepped.saw caller member).elim (saw caller) id)

end Scene

def World.entries (world : World) (level : Level) (message : String) : Nat :=
  world.journal.toList.countP fun event => event.level = level ∧ event.message = message

structure World.Tells (told : World) (moves : List Move) : Prop where
  toClosed : moves.countP (·.2 = .closed) = told.metrics.breaker.closed
  toOpened : moves.countP (·.2 = .opened) = told.metrics.breaker.opened
  toHalfOpen : moves.countP (·.2 = .halfOpen) = told.metrics.breaker.halfOpened
  fromClosed : moves.countP (·.1 = .closed) = told.entries .error "Circuit breaker → open"
  fromOpened : moves.countP (·.1 = .opened) = told.metrics.breaker.halfOpened
  fromHalfOpen : moves.countP (·.1 = .halfOpen) =
    told.metrics.breaker.closed + told.entries .warn "Circuit breaker: test failed → open"
  openings : told.metrics.breaker.opened = told.entries .error "Circuit breaker → open" +
    told.entries .warn "Circuit breaker: test failed → open"

private theorem World.notify_tells (notices : List Notice) :
    (World.notify {} notices).Tells (notices.filterMap Notice.move?) := by
  have counted := Metrics.foldl_recordBreaker {} (notices.filterMap Notice.breakerEvent?)
  constructor
  all_goals
    simp only [World.notify, World.record, World.entries, counted, Nat.zero_add]
    clear counted
    induction notices with
    | nil => rfl
    | cons notice rest ih =>
      cases notice <;>
        simp [List.filterMap_cons, Notice.move?, Notice.breakerEvent?, Notice.event?, Event.level,
          Event.message] at ih ⊢ <;> omega

namespace Scene

/-- Counters and log agree with each other and with the breaker. -/
structure Ledger (scene : Scene) (told : World) : Prop where
  /-- An opening is logged as an error or as a warning. -/
  openings : told.metrics.breaker.opened = told.entries .error "Circuit breaker → open" +
    told.entries .warn "Circuit breaker: test failed → open"
  /-- Each opening but the one that lasts is followed by a round. -/
  opened : told.metrics.breaker.opened = told.metrics.breaker.halfOpened +
    if scene.breaker.word.state = .opened then 1 else 0
  /-- Each round but the one that lasts has closed the breaker or opened it again. -/
  halfOpen : told.metrics.breaker.halfOpened = told.metrics.breaker.closed +
    told.entries .warn "Circuit breaker: test failed → open" +
    if scene.breaker.word.state = .halfOpen then 1 else 0
  /-- A breaker that has been closed again is opened again by its callers' failures. -/
  closed : told.entries .error "Circuit breaker → open" = told.metrics.breaker.closed +
    if scene.breaker.word.state = .closed then 0 else 1
  /-- Whoever is refused is counted. -/
  refusals : told.metrics.breaker.rejected = scene.record.countP Call.refused
  /-- The rounds are numbered as they are counted. -/
  round : scene.breaker.word.round.val = told.metrics.breaker.halfOpened

/-- When all callers are done, what they have told adds up, however they got in each other's way. -/
theorem run_ledger (settings : BreakerSettings) (turns : List Turn)
    (unwound : ((Scene.new settings).run turns).notices.count .halfOpened < 0x4000000000000000)
    (rest : ((Scene.new settings).run turns).heldUp = []) :
    ((Scene.new settings).run turns).Ledger
      (World.notify {} ((Scene.new settings).run turns).notices) := by
  have begun := (run_rounded settings turns unwound).begun
  obtain ⟨-, ⟨more, told, balance⟩, refusals, notices, record⟩ :=
    (Scene.new settings).run_goes nofun turns
  generalize (Scene.new settings).run turns = scene at *
  have all : scene.moves = scene.notices.filterMap Notice.move? := by simp [moves, rest]
  have balanced : Move.Balance (scene.notices.filterMap Notice.move?) .closed
      scene.breaker.word.state := balance.perm (all ▸ told)
  obtain ⟨toClosed, toOpened, toHalfOpen, fromClosed, fromOpened, fromHalfOpen, openings⟩ :=
    World.notify_tells scene.notices
  have closed := balanced .closed
  have opened := balanced .opened
  have halfOpen := balanced .halfOpen
  rw [toClosed, fromClosed] at closed
  rw [toOpened, fromOpened] at opened
  rw [toHalfOpen, fromHalfOpen] at halfOpen
  have counted := Metrics.foldl_recordBreaker {} (scene.notices.filterMap Notice.breakerEvent?)
  have refused : (World.notify {} scene.notices).metrics.breaker.rejected =
      scene.notices.count .rejected := by
    simp only [World.notify, World.record, counted, Nat.zero_add, Notice.count_rejected]
  have rounds : (World.notify {} scene.notices).metrics.breaker.halfOpened =
      scene.notices.count .halfOpened := by
    simp only [World.notify, World.record, counted, Nat.zero_add, Notice.count_halfOpened]
  constructor
  case openings => exact openings
  case opened => simpa using opened
  case halfOpen => simpa using halfOpen
  case closed =>
    rw [if_pos rfl] at closed
    by_cases shut : scene.breaker.word.state = .closed
    · simpa [shut] using closed.symm
    · simpa [shut] using closed.symm
  case refusals => rw [refused, notices, record]; rfl
  case round => rw [begun, rounds]

/-- A breaker trips, its first trial fails and its second closes it, and it trips again. Two callers
find it open and are refused while a third is held up, and one before the first timestamp is there. -/
theorem run_ledger_tripped :
    let settings : BreakerSettings := ⟨1, .ofMillis 10, 1⟩
    let turns : List Turn := [.ask, .settle 0 .failure, .ask, .read 5, .read 5, .ask, .ask, .read 20,
      .settle 2 .failure, .read 20, .read 20, .read 25, .ask, .read 35, .settle 4 .success, .ask,
      .settle 5 .failure, .read 40, .ask, .read 41]
    let scene := (Scene.new settings).run turns
    let told := World.notify {} scene.notices
    scene.notices.count .halfOpened < 0x4000000000000000 ∧ scene.heldUp = [] ∧ scene.Ledger told ∧
      told.metrics.breaker = ⟨3, 2, 1, 3⟩ ∧ told.entries .error "Circuit breaker → open" = 2 ∧
      told.entries .warn "Circuit breaker: test failed → open" = 1 ∧
      scene.breaker.word = ⟨.opened, 2⟩ := by
  intro settings turns scene told
  have unwound : scene.notices.count .halfOpened < 0x4000000000000000 := by decide
  have rest : scene.heldUp = [] := by decide
  exact ⟨unwound, rest, run_ledger settings turns unwound rest, by decide, by decide, by decide,
    by decide⟩

end Scene

end AdmissionControl
