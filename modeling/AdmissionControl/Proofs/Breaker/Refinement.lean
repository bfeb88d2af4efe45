import AdmissionControl.Proofs.Breaker.Automaton
/-!
The breaker's cells against its automaton. Of the four cells the counter of trials is the one that
does not always mean something, and permits of any earlier round may come back at any time. What
ties the two together is `Agrees`; every visit keeps it, and so every run is seen alike.
-/

namespace AdmissionControl

namespace BreakerSettings

private theorem limits_recovery (settings : BreakerSettings) :
    settings.limits.recovery = settings.recoveryMillis := by
  have milli : Duration.nanosPerMilli = 1000000 := rfl
  have positive : 0 < lastMilli := by decide
  have last : UInt64.size - 1 = lastMilli := rfl
  simp only [limits, recoveryMillis, Duration.wholeMillis, last, milli]
  omega

end BreakerSettings

/-- The mode that a breaker's cells stand for. The counter of trials means something only while the
breaker is half-open, where it counts the trials of the current round that callers still hold, and
while it is open, where it is zero. -/
def Breaker.Shows (breaker : Breaker) (permits : List (Option Permit)) : Mode → Prop
  | .closed streak =>
    breaker.word.state = .closed ∧ breaker.failures = streak ∧
      streak < breaker.settings.failureThreshold
  | .opened since count =>
    breaker.word.state = .opened ∧ breaker.failures = count ∧ breaker.openedAt = since ∧
      breaker.trials = 0
  | .halfOpen trials count =>
    breaker.word.state = .halfOpen ∧ breaker.failures = count ∧ breaker.trials = trials.card ∧
      ∀ caller, caller ∈ trials ↔ permits[caller]? = some (some (.trial breaker.word.round))

/-- A breaker and the permits that callers hold agree with an automaton. No trial is of a round yet
to come. -/
structure Agrees (breaker : Breaker) (permits : List (Option Permit)) (automaton : Automaton) :
    Prop where
  shows : breaker.Shows permits automaton.mode
  holds : permits.map (Option.map Permit.isTrial) = automaton.holds
  past : ∀ round, some (Permit.trial round) ∈ permits → round.val ≤ breaker.word.round.val

private theorem holder_concat (permits : List (Option Permit)) (last : Option Permit)
    (permit : Permit) (caller : Nat) :
    (permits ++ [last])[caller]? = some (some permit) ↔
      permits[caller]? = some (some permit) ∨ caller = permits.length ∧ last = some permit := by
  rcases Nat.lt_trichotomy caller permits.length with earlier | same | later
  · simp [List.getElem?_append_left earlier, Nat.ne_of_lt earlier]
  · simp [same]
  · have missing : permits[caller]? = none := List.getElem?_eq_none (Nat.le_of_lt later)
    have beyond : (permits ++ [last])[caller]? = none := List.getElem?_eq_none (by simp; omega)
    simp [missing, beyond, Nat.ne_of_gt later]

private theorem holder_set (permits : List (Option Permit)) (permit : Permit) (gone caller : Nat) :
    (permits.set gone none)[caller]? = some (some permit) ↔
      caller ≠ gone ∧ permits[caller]? = some (some permit) := by
  by_cases same : gone = caller
  · subst same
    simp [List.getElem?_set_self']
  · simp [List.getElem?_set_ne same, Ne.symm same]

private theorem toOption_map (answer : Except CircuitOpen Permit) :
    (answer.map Permit.isTrial).toOption = answer.toOption.map Permit.isTrial := by
  cases answer <;> rfl

namespace Agrees

variable {breaker : Breaker} {permits : List (Option Permit)} {mode : Mode}
  {holds : List (Option Bool)}

private theorem state (agrees : Agrees breaker permits automaton) :
    breaker.word.state = automaton.mode.state := by
  have shows := agrees.shows
  cases mode : automaton.mode <;> rw [mode] at shows <;> exact shows.1

private theorem failures (agrees : Agrees breaker permits automaton) :
    breaker.failures = automaton.mode.failures := by
  have shows := agrees.shows
  cases mode : automaton.mode <;> rw [mode] at shows <;> exact shows.2.1

private theorem length (agrees : Agrees breaker permits ⟨mode, holds⟩) :
    permits.length = holds.length := by
  simpa using congrArg List.length agrees.holds

private theorem answered {changed : Breaker} {next : Mode} {answer : Except CircuitOpen Permit}
    (agrees : Agrees breaker permits ⟨mode, holds⟩)
    (shows : changed.Shows (permits ++ [answer.toOption]) next)
    (later : breaker.word.round.val ≤ changed.word.round.val)
    (current : ∀ round, answer = .ok (.trial round) → round.val ≤ changed.word.round.val) :
    Agrees changed (permits ++ [answer.toOption])
      ⟨next, holds ++ [(answer.map Permit.isTrial).toOption]⟩ := by
  refine ⟨shows, ?_, ?_⟩
  · simp [agrees.holds, toOption_map]
  · intro round held
    rcases List.mem_append.mp held with earlier | new
    · exact Nat.le_trans (agrees.past round earlier) later
    · cases answer with
      | error refusal => simp [Except.toOption] at new
      | ok permit => exact current round (by simpa [Except.toOption, eq_comm] using new)

private theorem takeTrial {trials : Finset Nat} {count : Nat} (now : Nat)
    (agrees : Agrees breaker permits ⟨.halfOpen trials count, holds⟩) :
    let asked := (Mode.halfOpen trials count).ask breaker.settings.limits holds.length now
    breaker.takeTrial.1.map Permit.isTrial = asked.1 ∧
      Agrees breaker.takeTrial.2 (permits ++ [breaker.takeTrial.1.toOption])
        ⟨asked.2, holds ++ [(breaker.takeTrial.1.map Permit.isTrial).toOption]⟩ := by
  intro asked
  obtain ⟨state, failures, counted, member⟩ := agrees.shows
  by_cases free : trials.card < breaker.settings.halfOpenMaxCalls
  · have room : ¬ breaker.settings.halfOpenMaxCalls ≤ breaker.trials := by omega
    have taken : breaker.takeTrial =
        (.ok (.trial breaker.word.round), { breaker with trials := breaker.trials + 1 }) := by
      simp [Breaker.takeTrial, room]
    have granted : asked = (.ok true, .halfOpen (insert holds.length trials) count) := by
      simp [asked, Mode.ask, BreakerSettings.limits, free]
    rw [taken, granted]
    refine ⟨rfl, agrees.answered ⟨state, failures, ?_, ?_⟩ (Nat.le_refl _) ?_⟩
    · have fresh : holds.length ∉ trials := by
        rw [member, ← agrees.length]
        simp
      rw [Finset.card_insert_of_notMem fresh, counted]
    · intro caller
      rw [Finset.mem_insert, member, holder_concat, agrees.length, or_comm]
      simp [Except.toOption]
    · intro round same
      cases same
      exact Nat.le_refl _
  · have full : breaker.settings.halfOpenMaxCalls ≤ breaker.trials := by omega
    have taken : breaker.takeTrial =
        (.error (breaker.refusal breaker.settings.recoveryMillis), breaker) := by
      simp [Breaker.takeTrial, full]
    have refused : asked =
        (.error (breaker.refusal breaker.settings.recoveryMillis), .halfOpen trials count) := by
      rw [← BreakerSettings.limits_recovery, Breaker.refusal, failures]
      simp [asked, Mode.ask, free, BreakerSettings.limits]
    rw [taken, refused]
    refine ⟨rfl, agrees.answered ⟨state, failures, counted, ?_⟩ (Nat.le_refl _) ?_⟩
    · intro caller
      rw [member, holder_concat]
      simp [Except.toOption]
    · intro round same
      cases same

private theorem beginRound {since count : Nat}
    (agrees : Agrees breaker permits ⟨.opened since count, holds⟩)
    (unwound : breaker.word.round.val + 1 < 0x4000000000000000) :
    Agrees breaker.beginRound permits ⟨.halfOpen ∅ count, holds⟩ := by
  obtain ⟨state, failures, openedAt, counted⟩ := agrees.shows
  have next : breaker.word.round.next.val = breaker.word.round.val + 1 :=
    Nat.mod_eq_of_lt unwound
  refine ⟨⟨rfl, failures, counted.trans Finset.card_empty.symm, ?_⟩, agrees.holds, ?_⟩
  · intro caller
    simp only [Finset.notMem_empty, false_iff]
    intro held
    have past := agrees.past _ (List.mem_of_getElem? held)
    simp only [Breaker.beginRound, next] at past
    omega
  · intro round held
    have past := agrees.past round held
    simp only [Breaker.beginRound, next]
    omega

private theorem ask (now : Nat) (agrees : Agrees breaker permits ⟨mode, holds⟩)
    (unwound : breaker.word.round.val + 1 < 0x4000000000000000)
    (trials : 1 ≤ breaker.settings.halfOpenMaxCalls) :
    let asked := mode.ask breaker.settings.limits holds.length now
    (breaker.ask now).1.map Permit.isTrial = asked.1 ∧
      Agrees (breaker.ask now).2 (permits ++ [(breaker.ask now).1.toOption])
        ⟨asked.2, holds ++ [((breaker.ask now).1.map Permit.isTrial).toOption]⟩ := by
  cases mode with
  | closed streak =>
    rw [Breaker.ask_closed agrees.state]
    refine ⟨rfl, agrees.answered agrees.shows (Nat.le_refl _) ?_⟩
    intro round same
    cases same
  | halfOpen trials count =>
    rw [Breaker.ask_halfOpen agrees.state]
    exact agrees.takeTrial now
  | opened since count =>
    obtain ⟨opened, failures, openedAt, _⟩ := agrees.shows
    by_cases early : now - since < breaker.settings.recoveryMillis
    · have asked : breaker.ask now = (.error (breaker.refusal (now - since)), breaker) := by
        rw [Breaker.ask_early opened (by rwa [openedAt]), openedAt]
      have refused : (Mode.opened since count).ask breaker.settings.limits holds.length now =
          (.error (breaker.refusal (now - since)), .opened since count) := by
        simp [Mode.ask, BreakerSettings.limits_recovery, early, Breaker.refusal, failures]
      rw [asked, refused]
      refine ⟨rfl, agrees.answered agrees.shows (Nat.le_refl _) ?_⟩
      intro round same
      cases same
    · have asked : breaker.ask now = breaker.beginRound.takeTrial :=
        Breaker.ask_late opened (by rwa [openedAt])
      have granted : (Mode.opened since count).ask breaker.settings.limits holds.length now =
          (Mode.halfOpen ∅ count).ask breaker.settings.limits holds.length now := by
        have room : 0 < breaker.settings.limits.trials := trials
        simp [Mode.ask, BreakerSettings.limits_recovery, early, room]
      rw [asked, granted]
      exact (agrees.beginRound unwound).takeTrial now

private theorem returned {changed : Breaker} {next : Mode} {caller : Nat}
    (agrees : Agrees breaker permits ⟨mode, holds⟩)
    (shows : changed.Shows (permits.set caller none) next)
    (same : changed.word.round = breaker.word.round) :
    Agrees changed (permits.set caller none) ⟨next, holds.set caller none⟩ := by
  refine ⟨shows, ?_, ?_⟩
  · simpa [List.map_set] using congrArg (List.set · caller none) agrees.holds
  · intro round held
    rw [same]
    rcases List.mem_or_eq_of_mem_set held with earlier | new
    · exact agrees.past round earlier
    · cases new

private theorem settle_closed {streak caller : Nat} (permit : Permit) (verdict : Verdict)
    (now : Nat) (agrees : Agrees breaker permits ⟨.closed streak, holds⟩) :
    Agrees (breaker.settle permit verdict now) (permits.set caller none)
      ⟨(Mode.closed streak).settle breaker.settings.limits caller permit.isTrial now verdict,
        holds.set caller none⟩ := by
  obtain ⟨closed, failures, below⟩ := agrees.shows
  cases permit with
  | ordinary =>
    cases verdict with
    | success =>
      rw [Breaker.settle_reset closed]
      exact agrees.returned ⟨closed, rfl, Nat.zero_lt_of_lt below⟩ rfl
    | none => exact agrees.returned ⟨closed, failures, below⟩ rfl
    | failure =>
      by_cases more : streak + 1 < breaker.settings.failureThreshold
      · rw [Breaker.settle_count closed (failures ▸ more), failures]
        have next : (Mode.closed streak).settle breaker.settings.limits caller false now .failure =
            .closed (streak + 1) := by
          simp [Mode.settle, BreakerSettings.limits, Nat.ne_of_lt more]
        exact agrees.returned (next ▸ ⟨closed, rfl, more⟩) rfl
      · have last : streak + 1 = breaker.settings.failureThreshold := by omega
        rw [Breaker.settle_trip closed (failures ▸ more)]
        have next : (Mode.closed streak).settle breaker.settings.limits caller false now .failure =
            .opened now breaker.settings.failureThreshold := by
          simp [Mode.settle, BreakerSettings.limits, last]
        exact agrees.returned (next ▸ ⟨rfl, failures ▸ last, rfl, rfl⟩) rfl
  | trial round =>
    have stale : breaker.word ≠ ⟨.halfOpen, round⟩ := by
      intro same
      simp [same] at closed
    have kept : (Mode.closed streak).settle breaker.settings.limits caller true now verdict =
        .closed streak := by
      cases verdict <;> rfl
    rw [show (Permit.trial round).isTrial = true from rfl, kept]
    rcases Breaker.settle_stale stale verdict now with same | ⟨_, same⟩
    · rw [same]
      exact agrees.returned ⟨closed, failures, below⟩ rfl
    · rw [same]
      exact agrees.returned ⟨closed, failures, below⟩ rfl

private theorem settle_opened {since count caller : Nat} (permit : Permit) (verdict : Verdict)
    (now : Nat) (agrees : Agrees breaker permits ⟨.opened since count, holds⟩) :
    Agrees (breaker.settle permit verdict now) (permits.set caller none)
      ⟨(Mode.opened since count).settle breaker.settings.limits caller permit.isTrial now verdict,
        holds.set caller none⟩ := by
  obtain ⟨opened, failures, openedAt, counted⟩ := agrees.shows
  have kept : (Mode.opened since count).settle breaker.settings.limits caller permit.isTrial now
      verdict = .opened since count := by
    cases verdict <;> rfl
  rw [kept, Breaker.settle_opened opened counted]
  exact agrees.returned ⟨opened, failures, openedAt, counted⟩ rfl

private theorem settle_stranger {trials : Finset Nat} {count caller : Nat} (isTrial : Bool)
    (verdict : Verdict) (now : Nat) (agrees : Agrees breaker permits ⟨.halfOpen trials count, holds⟩)
    (stranger : caller ∉ trials) :
    Agrees breaker (permits.set caller none)
      ⟨(Mode.halfOpen trials count).settle breaker.settings.limits caller isTrial now verdict,
        holds.set caller none⟩ := by
  obtain ⟨halfOpen, failures, counted, member⟩ := agrees.shows
  have kept : (Mode.halfOpen trials count).settle breaker.settings.limits caller isTrial now verdict =
      .halfOpen trials count := by
    cases verdict <;> simp [Mode.settle, stranger]
  rw [kept]
  refine agrees.returned ⟨halfOpen, failures, counted, ?_⟩ rfl
  intro other
  rw [holder_set, ← member]
  exact ⟨fun inside => ⟨fun same => stranger (same ▸ inside), inside⟩, And.right⟩

private theorem settle_halfOpen {trials : Finset Nat} {count caller : Nat} {permit : Permit}
    (verdict : Verdict) (now : Nat) (agrees : Agrees breaker permits ⟨.halfOpen trials count, holds⟩)
    (held : permits[caller]? = some (some permit))
    (threshold : 1 ≤ breaker.settings.failureThreshold) :
    Agrees (breaker.settle permit verdict now) (permits.set caller none)
      ⟨(Mode.halfOpen trials count).settle breaker.settings.limits caller permit.isTrial now verdict,
        holds.set caller none⟩ := by
  obtain ⟨halfOpen, failures, counted, member⟩ := agrees.shows
  cases permit with
  | ordinary =>
    rw [Breaker.settle_late (by simp [halfOpen])]
    apply agrees.settle_stranger _ verdict now
    simp [member, held]
  | trial round =>
    by_cases current : breaker.word = ⟨.halfOpen, round⟩
    · have inside : caller ∈ trials := by
        rw [member, held, current]
      cases verdict with
      | success =>
        rw [Breaker.settle_pass current]
        have next : (Mode.halfOpen trials count).settle breaker.settings.limits caller true now
            .success = .closed 0 := by
          simp [Mode.settle, inside]
        exact agrees.returned (next ▸ ⟨rfl, rfl, threshold⟩) (by simp [current])
      | failure =>
        rw [Breaker.settle_reopen current]
        have next : (Mode.halfOpen trials count).settle breaker.settings.limits caller true now
            .failure = .opened now (count + 1) := by
          simp [Mode.settle, inside]
        exact agrees.returned (next ▸ ⟨rfl, by simp [failures], rfl, rfl⟩) (by simp [current])
      | none =>
        have given : breaker.settle (.trial round) .none now =
            { breaker with trials := breaker.trials - 1 } := by
          simp [Breaker.settle, Breaker.discard, current]
        rw [given]
        refine agrees.returned ⟨halfOpen, failures, ?_, ?_⟩ rfl
        · rw [Finset.card_erase_of_mem inside, counted]
        · intro other
          rw [Finset.mem_erase, holder_set, member]
    · have stranger : caller ∉ trials := by
        rw [member, held]
        intro same
        have round_eq : round = breaker.word.round := by simpa using same
        exact current (by rw [← halfOpen, round_eq])
      rcases Breaker.settle_stale current verdict now with same | ⟨same, _⟩
      · rw [same]
        exact agrees.settle_stranger _ verdict now stranger
      · exact absurd (by rw [← halfOpen, ← same]) current

private theorem settle {caller : Nat} {permit : Permit} (verdict : Verdict) (now : Nat)
    (agrees : Agrees breaker permits ⟨mode, holds⟩) (held : permits[caller]? = some (some permit))
    (threshold : 1 ≤ breaker.settings.failureThreshold) :
    Agrees (breaker.settle permit verdict now) (permits.set caller none)
      ⟨mode.settle breaker.settings.limits caller permit.isTrial now verdict,
        holds.set caller none⟩ := by
  cases mode with
  | closed streak => exact agrees.settle_closed permit verdict now
  | opened since count => exact agrees.settle_opened permit verdict now
  | halfOpen trials count => exact agrees.settle_halfOpen verdict now held threshold

end Agrees

namespace World

variable {world : World} {ref : Ref Circuit} {clock : Ref Clock} {breaker : Breaker}
  {permits : List (Option Permit)}

private theorem sight_agrees {automaton : Automaton} (left : world.Leaves ref clock breaker)
    (agrees : Agrees breaker permits automaton) (answer : Option (Except CircuitOpen Bool)) :
    world.sight ref answer = automaton.sight answer := by
  simp only [World.sight, Automaton.sight, Breaker.state, left.stands, agrees.state, agrees.failures]

/-- One visit is seen alike, and leaves breaker and automaton in agreement. -/
theorem visit_agrees {automaton : Automaton} (left : world.Leaves ref clock breaker)
    (agrees : Agrees breaker permits automaton)
    (threshold : 1 ≤ breaker.settings.failureThreshold)
    (trials : 1 ≤ breaker.settings.halfOpenMaxCalls)
    (unwound : breaker.word.round.val + 1 < 0x4000000000000000) (visit : Visit) :
    let seen := world.visit ref permits visit
    let expected := automaton.visit breaker.settings.limits visit
    seen.1 = expected.1 ∧ ∃ changed, seen.2.1.Leaves ref clock changed ∧
      Agrees changed seen.2.2 expected.2 ∧ changed.settings = breaker.settings ∧
      changed.word.round.val ≤ breaker.word.round.val + 1 := by
  have shown (now : Nat) : ((world.setClock clock now).clocks.get clock).now = now := by
    simp [World.setClock]
  cases visit with
  | ask now =>
    obtain ⟨answer, left'⟩ := (left.setClock now).allow_undisturbed
    rw [shown] at answer left'
    obtain ⟨same, agrees'⟩ := agrees.ask now unwound trials
    simp only [World.visit, Automaton.visit, left.reads, answer]
    rw [same] at agrees' ⊢
    exact ⟨sight_agrees left' agrees' _, _, left', agrees', breaker.ask_settings now,
      breaker.ask_round now⟩
  | settle caller verdict now =>
    have held : automaton.holds[caller]?.join = permits[caller]?.join.map Permit.isTrial := by
      rw [← agrees.holds, List.getElem?_map]
      cases permits[caller]? <;> rfl
    simp only [World.visit, Automaton.visit, left.reads, held]
    cases found : permits[caller]?.join with
    | none => exact ⟨sight_agrees left agrees none, breaker, left, agrees, rfl, Nat.le_succ _⟩
    | some permit =>
      have left' := (left.setClock now).resolve_undisturbed permit verdict
      rw [shown] at left'
      have agrees' := agrees.settle verdict now (Option.join_eq_some_iff.mp found) threshold
      obtain ⟨settings, round⟩ := breaker.settle_keeps permit verdict now
      exact ⟨sight_agrees left' agrees' none, _, left', agrees', settings,
        round ▸ Nat.le_succ _⟩

private theorem sights_agree (visits : List Visit) {automaton : Automaton}
    (left : world.Leaves ref clock breaker) (agrees : Agrees breaker permits automaton)
    (threshold : 1 ≤ breaker.settings.failureThreshold)
    (trials : 1 ≤ breaker.settings.halfOpenMaxCalls)
    (unwound : breaker.word.round.val + visits.length < 0x4000000000000000) :
    world.sights ref permits visits = automaton.sights breaker.settings.limits visits := by
  induction visits generalizing world breaker permits automaton with
  | nil => rfl
  | cons visit rest ih =>
    simp only [List.length_cons] at unwound
    obtain ⟨seen, changed, left', agrees', settings, round⟩ :=
      visit_agrees left agrees threshold trials (by omega) visit
    have others := ih left' agrees' (by rw [settings]; exact threshold)
      (by rw [settings]; exact trials) (by omega)
    rw [settings] at others
    simp only [World.sights, Automaton.sights, seen, others]

/-- Whatever callers ask and return, one after the other, a new breaker answers them as its
automaton does and shows the same state and count of failures after each. The moments may be any:
where a clock went back, no time has passed for either. -/
theorem sights_eq_automaton (world : World) (ref : Ref Circuit) (settings : BreakerSettings)
    (visits : List Visit) (fresh : world.breaker ref = .new settings)
    (calm : world.interruptions = []) (threshold : 1 ≤ settings.failureThreshold)
    (trials : 1 ≤ settings.halfOpenMaxCalls) (few : visits.length < 0x4000000000000000) :
    world.sights ref [] visits = Automaton.sights settings.limits {} visits := by
  have left : world.Leaves ref (world.circuits.get ref).clock (.new settings) := ⟨fresh, rfl, calm⟩
  have agrees : Agrees (.new settings) [] {} :=
    ⟨⟨rfl, rfl, threshold⟩, rfl, fun _ held => absurd held List.not_mem_nil⟩
  have start : (Breaker.new settings).word.round.val = 0 := rfl
  exact sights_agree visits left agrees threshold trials (by omega)

/-- Two failures open the breaker for 100 ms, its trial fails, and the next one succeeds. The first
trial's permit, which came back long ago, cannot come back again. -/
theorem sights_reopened :
    let settings : BreakerSettings := ⟨2, .ofMillis 100, 1⟩
    let world : World := { circuits := ⟨#[{ breaker := .new settings, clock := ⟨0⟩ }]⟩ }
    let visits : List Visit :=
      [.ask 0, .ask 0, .settle 0 .failure 5, .settle 1 .failure 7, .ask 50, .ask 107, .ask 107,
        .settle 3 .failure 110, .ask 210, .settle 3 .success 211, .settle 5 .success 212]
    (world.breaker ⟨0⟩ = .new settings ∧ world.interruptions = [] ∧
      1 ≤ settings.failureThreshold ∧ 1 ≤ settings.halfOpenMaxCalls ∧
        visits.length < 0x4000000000000000) ∧
    world.sights ⟨0⟩ [] visits =
      [⟨some (.ok false), .closed, 0⟩, ⟨some (.ok false), .closed, 0⟩, ⟨none, .closed, 1⟩,
        ⟨none, .opened, 2⟩, ⟨some (.error ⟨2, .ofMillis 43⟩), .opened, 2⟩,
        ⟨some (.ok true), .halfOpen, 2⟩, ⟨some (.error ⟨2, .ofMillis 100⟩), .halfOpen, 2⟩,
        ⟨none, .opened, 3⟩, ⟨some (.ok true), .halfOpen, 3⟩, ⟨none, .halfOpen, 3⟩,
        ⟨none, .closed, 0⟩] := by
  intro settings world visits
  have premises : world.breaker ⟨0⟩ = .new settings ∧ world.interruptions = [] ∧
      1 ≤ settings.failureThreshold ∧ 1 ≤ settings.halfOpenMaxCalls ∧
        visits.length < 0x4000000000000000 := by
    decide
  obtain ⟨fresh, calm, threshold, trials, few⟩ := premises
  refine ⟨⟨fresh, calm, threshold, trials, few⟩, ?_⟩
  rw [sights_eq_automaton world ⟨0⟩ settings visits fresh calm threshold trials few]
  subst settings visits
  rfl

end World

end AdmissionControl
