import AdmissionControl.World.Reading

namespace AdmissionControl

private theorem Notice.count_breakerEvent {event : BreakerEvent} {notice : Notice}
    (only : ∀ other : Notice, other.breakerEvent? = some event ↔ other = notice)
    (notices : List Notice) :
    (notices.filterMap breakerEvent?).count event = notices.count notice := by
  rw [List.count, List.countP_filterMap, List.count]
  refine List.countP_congr fun other _ => ?_
  rw [beq_iff_eq, ← only other]
  cases other.breakerEvent? <;> simp

theorem Notice.count_rejected (notices : List Notice) :
    (notices.filterMap breakerEvent?).count .rejected = notices.count .rejected :=
  count_breakerEvent (fun other => by cases other <;> simp [breakerEvent?]) notices

theorem Notice.count_halfOpened (notices : List Notice) :
    (notices.filterMap breakerEvent?).count .halfOpened = notices.count .halfOpened :=
  count_breakerEvent (fun other => by cases other <;> simp [breakerEvent?]) notices

namespace Breaker

/-- Asks a half-open breaker for one of its trials. -/
def takeTrial (breaker : Breaker) : Except CircuitOpen Permit × Breaker :=
  if breaker.settings.halfOpenMaxCalls ≤ breaker.trials then
    (.error (breaker.refusal breaker.settings.recoveryMillis), breaker)
  else (.ok (.trial breaker.word.round), { breaker with trials := breaker.trials + 1 })

def beginRound (breaker : Breaker) : Breaker :=
  { breaker with openedAt := notOpen, word := ⟨.halfOpen, breaker.word.round.next⟩ }

/-- Asks for a permit while nobody else gets in. -/
def ask (breaker : Breaker) (now : Nat) : Except CircuitOpen Permit × Breaker :=
  match breaker.word.state with
  | .closed => (.ok .ordinary, breaker)
  | .opened =>
    if now - breaker.openedAt < breaker.settings.recoveryMillis then
      (.error (breaker.refusal (now - breaker.openedAt)), breaker)
    else breaker.beginRound.takeTrial
  | .halfOpen => breaker.takeTrial

/-- Returns a permit while nobody else gets in. -/
def settle (breaker : Breaker) (permit : Permit) (verdict : Verdict) (now : Nat) : Breaker :=
  match verdict with
  | .success => (breaker.succeed permit).1
  | .none => breaker.discard permit
  | .failure =>
    let (breaker, opening?) := breaker.fail permit
    match opening? with
    | none => breaker
    | some opening => (breaker.stamp opening now).1

theorem inquire_closed {breaker : Breaker} (closed : breaker.word.state = .closed) :
    breaker.inquire = (breaker, [], .granted .ordinary) := by
  simp [inquire, closed]

theorem inquire_opened {breaker : Breaker} (opened : breaker.word.state = .opened) :
    breaker.inquire = (breaker, [], .timing breaker.word breaker.openedAt) := by
  simp [inquire, opened]

theorem inquire_full {breaker : Breaker} (halfOpen : breaker.word.state = .halfOpen)
    (full : breaker.settings.halfOpenMaxCalls ≤ breaker.trials) :
    breaker.inquire =
      (breaker, [.rejected], .refused (breaker.refusal breaker.settings.recoveryMillis)) := by
  simp [inquire, halfOpen, full]

theorem inquire_free {breaker : Breaker} (halfOpen : breaker.word.state = .halfOpen)
    (free : ¬ breaker.settings.halfOpenMaxCalls ≤ breaker.trials) :
    breaker.inquire =
      ({ breaker with trials := breaker.trials + 1 },
        [.trialStarted (breaker.trials + 1) breaker.settings.halfOpenMaxCalls],
        .granted (.trial breaker.word.round)) := by
  simp [inquire, halfOpen, free]

theorem timed_early {breaker : Breaker} {openedAt now : Nat}
    (early : now - openedAt < breaker.settings.recoveryMillis) :
    breaker.timed seen openedAt now =
      (breaker, [.rejected], some (breaker.refusal (now - openedAt))) := by
  simp [timed, early]

theorem timed_late {breaker : Breaker} {now : Nat}
    (late : ¬ now - breaker.openedAt < breaker.settings.recoveryMillis) :
    breaker.timed breaker.word breaker.openedAt now =
      (breaker.beginRound, [.halfOpened], none) := by
  simp [timed, late, beginRound]

theorem timed_moved {breaker : Breaker} {openedAt now : Nat}
    (late : ¬ now - openedAt < breaker.settings.recoveryMillis)
    (moved : breaker.openedAt ≠ openedAt) :
    breaker.timed seen openedAt now = (breaker, [], none) := by
  simp [timed, late, moved]

theorem timed_again (seen : Word) {breaker : Breaker} {openedAt now : Nat}
    (late : ¬ now - openedAt < breaker.settings.recoveryMillis) :
    .rejected ∉ (breaker.timed seen openedAt now).2.1 ∧
      (breaker.timed seen openedAt now).2.2 = none := by
  simp only [timed, if_neg late]
  split
  · split <;> simp
  · simp

theorem ask_closed {breaker : Breaker} (closed : breaker.word.state = .closed) (now : Nat) :
    breaker.ask now = (.ok .ordinary, breaker) := by
  simp [ask, closed]

theorem ask_halfOpen {breaker : Breaker} (halfOpen : breaker.word.state = .halfOpen) (now : Nat) :
    breaker.ask now = breaker.takeTrial := by
  simp [ask, halfOpen]

theorem ask_early {breaker : Breaker} {now : Nat} (opened : breaker.word.state = .opened)
    (early : now - breaker.openedAt < breaker.settings.recoveryMillis) :
    breaker.ask now = (.error (breaker.refusal (now - breaker.openedAt)), breaker) := by
  simp [ask, opened, early]

theorem ask_late {breaker : Breaker} {now : Nat} (opened : breaker.word.state = .opened)
    (late : ¬ now - breaker.openedAt < breaker.settings.recoveryMillis) :
    breaker.ask now = breaker.beginRound.takeTrial := by
  simp [ask, opened, late]

theorem settle_reset {breaker : Breaker} (closed : breaker.word.state = .closed) (now : Nat) :
    breaker.settle .ordinary .success now = { breaker with failures := 0 } := by
  simp [settle, succeed, closed]

theorem settle_count {breaker : Breaker} (closed : breaker.word.state = .closed)
    (below : breaker.failures + 1 < breaker.settings.failureThreshold) (now : Nat) :
    breaker.settle .ordinary .failure now = { breaker with failures := breaker.failures + 1 } := by
  simp [settle, fail, closed, below]

theorem settle_trip {breaker : Breaker} (closed : breaker.word.state = .closed)
    (reached : ¬ breaker.failures + 1 < breaker.settings.failureThreshold) (now : Nat) :
    breaker.settle .ordinary .failure now =
      { breaker with
        failures := breaker.failures + 1
        word := ⟨.opened, breaker.word.round⟩
        trials := 0
        openedAt := now } := by
  simp [settle, fail, stamp, closed, reached]

theorem settle_late {breaker : Breaker} (moved : breaker.word.state ≠ .closed) (verdict : Verdict)
    (now : Nat) : breaker.settle .ordinary verdict now = breaker := by
  cases verdict <;> simp [settle, succeed, fail, discard, moved]

theorem settle_pass {breaker : Breaker} {round : Round} (current : breaker.word = ⟨.halfOpen, round⟩)
    (now : Nat) :
    breaker.settle (.trial round) .success now =
      { breaker with word := ⟨.closed, round⟩, failures := 0 } := by
  simp [settle, succeed, current]

theorem settle_reopen {breaker : Breaker} {round : Round}
    (current : breaker.word = ⟨.halfOpen, round⟩) (now : Nat) :
    breaker.settle (.trial round) .failure now =
      { breaker with
        word := ⟨.opened, round⟩
        failures := breaker.failures + 1
        trials := 0
        openedAt := now } := by
  simp [settle, fail, stamp, current]

/-- Outside its own round a trial's verdict says nothing. All that may change is the counter of
trials, and that only for a trial of the round that the word still shows. -/
theorem settle_stale {breaker : Breaker} {round : Round} (stale : breaker.word ≠ ⟨.halfOpen, round⟩)
    (verdict : Verdict) (now : Nat) :
    breaker.settle (.trial round) verdict now = breaker ∨
      breaker.word.round = round ∧
        breaker.settle (.trial round) verdict now =
          { breaker with trials := breaker.trials - 1 } := by
  cases verdict with
  | success => simp [settle, succeed, stale]
  | failure => simp [settle, fail, stale]
  | none =>
    by_cases same : breaker.word.round = round
    · simp [settle, discard, same]
    · simp [settle, discard, same]

theorem settle_opened {breaker : Breaker} (opened : breaker.word.state = .opened)
    (counted : breaker.trials = 0) (permit : Permit) (verdict : Verdict) (now : Nat) :
    breaker.settle permit verdict now = breaker := by
  cases permit with
  | ordinary => exact settle_late (by simp [opened]) verdict now
  | trial round =>
    have stale : breaker.word ≠ ⟨.halfOpen, round⟩ := by
      intro same
      simp [same] at opened
    rcases settle_stale stale verdict now with same | ⟨_, same⟩
    · exact same
    · rw [same, counted, Nat.zero_sub, ← counted]

/-- Only a breaker that is not open yet can be opened, and then all it lacks is its timestamp. -/
theorem fail_opens {breaker : Breaker} {permit : Permit} {opening : Opening}
    (opens : (breaker.fail permit).2 = some opening) :
    breaker.word.state ≠ .opened ∧ (breaker.fail permit).1.settings = breaker.settings ∧
      (breaker.fail permit).1.word.state = .opened ∧
      (breaker.fail permit).1.openedAt = breaker.openedAt ∧ (breaker.fail permit).1.trials = 0 := by
  cases permit with
  | ordinary =>
    by_cases closed : breaker.word.state = .closed
    · by_cases below : breaker.failures + 1 < breaker.settings.failureThreshold
      · simp [fail, closed, below] at opens
      · simp [fail, closed, below]
    · simp [fail, closed] at opens
  | trial round =>
    by_cases current : breaker.word = ⟨.halfOpen, round⟩
    · simp [fail, current]
    · simp [fail, current] at opens

theorem fail_opened {breaker : Breaker} (opened : breaker.word.state = .opened) (permit : Permit) :
    (breaker.fail permit).2 = none := by
  cases opens : (breaker.fail permit).2 with
  | none => rfl
  | some opening => exact absurd opened (fail_opens opens).1

theorem rejected_notMem_succeed (breaker : Breaker) (permit : Permit) :
    .rejected ∉ (breaker.succeed permit).2 := by
  unfold succeed
  cases permit <;> (simp only []; split <;> simp)

theorem stamp_keeps (breaker : Breaker) (opening : Opening) (now : Nat) :
    (breaker.stamp opening now).1.settings = breaker.settings ∧
      (breaker.stamp opening now).1.word = breaker.word ∧
      (breaker.stamp opening now).1.trials = breaker.trials ∧
      (breaker.stamp opening now).1.openedAt = now := by
  cases opening <;> exact ⟨rfl, rfl, rfl, rfl⟩

theorem settle_fail {breaker : Breaker} {permit : Permit} {opening : Opening}
    (opens : (breaker.fail permit).2 = some opening) (now : Nat) :
    breaker.settle permit .failure now = ((breaker.fail permit).1.stamp opening now).1 := by
  simp [settle, opens]

/-- A permit that comes back without opening the breaker leaves the timestamp alone, frees slots at
most, and changes the word only from half-open to closed. -/
theorem settle_quiet {breaker : Breaker} {permit : Permit} {verdict : Verdict}
    (quiet : verdict = .failure → (breaker.fail permit).2 = none) (now : Nat) :
    (breaker.settle permit verdict now).openedAt = breaker.openedAt ∧
      (breaker.settle permit verdict now).trials ≤ breaker.trials ∧
      ((breaker.settle permit verdict now).word = breaker.word ∨
        breaker.word.state = .halfOpen ∧
          (breaker.settle permit verdict now).word.state = .closed) := by
  cases permit with
  | ordinary =>
    by_cases closed : breaker.word.state = .closed
    · cases verdict with
      | success => simp [settle_reset closed]
      | none => simp [settle, discard]
      | failure =>
        by_cases below : breaker.failures + 1 < breaker.settings.failureThreshold
        · simp [settle_count closed below]
        · have opens := quiet rfl
          simp [fail, closed, below] at opens
    · simp [settle_late closed]
  | trial round =>
    by_cases current : breaker.word = ⟨.halfOpen, round⟩
    · cases verdict with
      | success => simp [settle_pass current, current]
      | none => simp [settle, discard, current]
      | failure =>
        have opens := quiet rfl
        simp [fail, current] at opens
    · rcases settle_stale current verdict now with same | ⟨_, same⟩ <;> simp [same]

theorem takeTrial_keeps (breaker : Breaker) :
    breaker.takeTrial.2.settings = breaker.settings ∧ breaker.takeTrial.2.word = breaker.word ∧
      breaker.takeTrial.2.openedAt = breaker.openedAt := by
  unfold takeTrial
  split <;> exact ⟨rfl, rfl, rfl⟩

theorem takeTrial_within {breaker : Breaker}
    (within : breaker.trials ≤ breaker.settings.halfOpenMaxCalls) :
    breaker.takeTrial.2.trials ≤ breaker.settings.halfOpenMaxCalls := by
  unfold takeTrial
  split
  · exact within
  · next room => exact Nat.lt_of_not_le room

theorem ask_settings (breaker : Breaker) (now : Nat) :
    (breaker.ask now).2.settings = breaker.settings := by
  unfold ask
  split
  · rfl
  · split
    · rfl
    · exact breaker.beginRound.takeTrial_keeps.1
  · exact breaker.takeTrial_keeps.1

theorem settle_keeps (breaker : Breaker) (permit : Permit) (verdict : Verdict) (now : Nat) :
    (breaker.settle permit verdict now).settings = breaker.settings ∧
      (breaker.settle permit verdict now).word.round = breaker.word.round := by
  cases permit with
  | ordinary =>
    by_cases closed : breaker.word.state = .closed
    · cases verdict with
      | success => simp [settle_reset closed]
      | none => exact ⟨rfl, rfl⟩
      | failure =>
        by_cases below : breaker.failures + 1 < breaker.settings.failureThreshold
        · simp [settle_count closed below]
        · simp [settle_trip closed below]
    · simp [settle_late closed]
  | trial round =>
    by_cases current : breaker.word = ⟨.halfOpen, round⟩
    · cases verdict with
      | success => simp [settle_pass current, current]
      | failure => simp [settle_reopen current, current]
      | none => simp [settle, discard, current]
    · rcases settle_stale current verdict now with same | ⟨_, same⟩ <;> simp [same]

theorem ask_round (breaker : Breaker) (now : Nat) :
    (breaker.ask now).2.word.round.val ≤ breaker.word.round.val + 1 := by
  unfold ask
  split
  · exact Nat.le_succ _
  · split
    · exact Nat.le_succ _
    · rw [breaker.beginRound.takeTrial_keeps.2.1]
      exact Nat.mod_le _ _
  · rw [breaker.takeTrial_keeps.2.1]
    exact Nat.le_succ _

end Breaker

namespace World

/-- A breaker stands as given, reads the clock given, and nobody is set to get in. -/
structure Leaves (world : World) (ref : Ref Circuit) (clock : Ref Clock) (breaker : Breaker) :
    Prop where
  stands : world.breaker ref = breaker
  reads : (world.circuits.get ref).clock = clock
  calm : world.interruptions = []

variable {world : World} {ref : Ref Circuit} {clock : Ref Clock} {breaker : Breaker}

private theorem Leaves.notify (left : world.Leaves ref clock breaker) (notices : List Notice) :
    (world.notify notices).Leaves ref clock breaker := ⟨left.stands, left.reads, left.calm⟩

private theorem Leaves.setBreaker (left : world.Leaves ref clock breaker) (changed : Breaker) :
    (world.setBreaker ref changed).Leaves ref clock changed where
  stands := by simp [World.setBreaker, World.breaker, Table.get_modify]
  reads := by simpa [World.setBreaker, Table.get_modify] using left.reads
  calm := left.calm

theorem Leaves.setClock (left : world.Leaves ref clock breaker) (now : Nat) :
    (world.setClock clock now).Leaves ref clock breaker := ⟨left.stands, left.reads, left.calm⟩

private theorem Leaves.readWithin (left : world.Leaves ref clock breaker) (steps : Nat) :
    world.readWithin steps (world.circuits.get ref).clock =
      ((world.clocks.get clock).now, world) := by
  rw [readWithin_undisturbed left.calm, left.reads]

private theorem Leaves.allow_halfOpen (left : world.Leaves ref clock breaker)
    (halfOpen : breaker.word.state = .halfOpen) (steps : Nat) :
    ∃ after, world.allowWithin (steps + 1) ref = (breaker.takeTrial.1, after) ∧
      after.Leaves ref clock breaker.takeTrial.2 := by
  by_cases full : breaker.settings.halfOpenMaxCalls ≤ breaker.trials
  · refine ⟨(world.setBreaker ref breaker).notify [.rejected], ?_, ?_⟩
    · simp [World.allowWithin, left.stands, Breaker.inquire_full halfOpen full,
        Breaker.takeTrial, full]
    · simpa [Breaker.takeTrial, full] using (left.setBreaker breaker).notify [.rejected]
  · let started : Notice := .trialStarted (breaker.trials + 1) breaker.settings.halfOpenMaxCalls
    let taken : Breaker := { breaker with trials := breaker.trials + 1 }
    refine ⟨(world.setBreaker ref taken).notify [started], ?_, ?_⟩
    · simp [World.allowWithin, left.stands, Breaker.inquire_free halfOpen full,
        Breaker.takeTrial, full, started, taken]
    · simpa [Breaker.takeTrial, full] using (left.setBreaker taken).notify [started]

theorem Leaves.allow_opened (left : world.Leaves ref clock breaker)
    (opened : breaker.word.state = .opened) (steps : Nat) :
    let timed := breaker.timed breaker.word breaker.openedAt (world.clocks.get clock).now
    let after := (((world.setBreaker ref breaker).notify []).setBreaker ref timed.1).notify timed.2.1
    world.allowWithin (steps + 1) ref =
      match timed.2.2 with
      | some refusal => (.error refusal, after)
      | none => after.allowWithin steps ref := by
  have noted := (left.setBreaker breaker).notify []
  simp only [World.allowWithin, left.stands, Breaker.inquire_opened opened]
  rw [noted.readWithin, noted.stands]
  rfl

private theorem Leaves.allow_eq (left : world.Leaves ref clock breaker) (steps : Nat) :
    ∃ after, world.allowWithin (steps + 2) ref =
        ((breaker.ask (world.clocks.get clock).now).1, after) ∧
      after.Leaves ref clock (breaker.ask (world.clocks.get clock).now).2 := by
  cases state : breaker.word.state with
  | closed =>
    refine ⟨(world.setBreaker ref breaker).notify [], ?_, ?_⟩
    · simp [World.allowWithin, left.stands, Breaker.inquire_closed state, Breaker.ask, state]
    · simpa [Breaker.ask, state] using (left.setBreaker breaker).notify []
  | halfOpen =>
    have asked : breaker.ask (world.clocks.get clock).now = breaker.takeTrial := by
      simp [Breaker.ask, state]
    rw [asked]
    exact left.allow_halfOpen state (steps + 1)
  | opened =>
    have noted := (left.setBreaker breaker).notify []
    rw [left.allow_opened state]
    by_cases early : (world.clocks.get clock).now - breaker.openedAt <
        breaker.settings.recoveryMillis
    · simp only [Breaker.timed_early early, Breaker.ask, state, early, if_true]
      exact ⟨_, rfl, (noted.setBreaker breaker).notify [.rejected]⟩
    · simp only [Breaker.timed_late early, Breaker.ask, state, early, if_false]
      have begun := (noted.setBreaker breaker.beginRound).notify [.halfOpened]
      exact begun.allow_halfOpen rfl steps

private theorem Leaves.resolve_eq (left : world.Leaves ref clock breaker) (permit : Permit)
    (verdict : Verdict) (steps : Nat) :
    (world.resolveWithin (steps + 1) ref permit verdict).Leaves ref clock
      (breaker.settle permit verdict (world.clocks.get clock).now) := by
  cases verdict with
  | success =>
    simpa [World.resolveWithin, left.stands, Breaker.settle] using
      (left.setBreaker (breaker.succeed permit).1).notify (breaker.succeed permit).2
  | none => simpa [World.resolveWithin, left.stands, Breaker.settle] using left.setBreaker _
  | failure =>
    have failed := left.setBreaker (breaker.fail permit).1
    simp only [World.resolveWithin, left.stands, Breaker.settle]
    cases (breaker.fail permit).2 with
    | none => exact failed
    | some opening =>
      simp only [failed.readWithin, failed.stands]
      exact (failed.setBreaker _).notify _

theorem Leaves.allow_undisturbed (left : world.Leaves ref clock breaker) :
    (world.allow ref).1 = (breaker.ask (world.clocks.get clock).now).1 ∧
      (world.allow ref).2.Leaves ref clock (breaker.ask (world.clocks.get clock).now).2 := by
  obtain ⟨after, same, left'⟩ := left.allow_eq (4 * world.interruptions.length + 2)
  have asked : world.allow ref = _ := same
  rw [asked]
  exact ⟨rfl, left'⟩

theorem Leaves.resolve_undisturbed (left : world.Leaves ref clock breaker) (permit : Permit)
    (verdict : Verdict) :
    (world.resolve ref permit verdict).Leaves ref clock
      (breaker.settle permit verdict (world.clocks.get clock).now) :=
  left.resolve_eq permit verdict (4 * world.interruptions.length + 3)

end World

end AdmissionControl
