import AdmissionControl.Proofs.Breaker.Serializability
/-!
The number of failures of which a breaker tells those whom it refuses while it is open. A closed
breaker counts its last failure before it opens, so everybody is told of that. But a half-open one
opens first, then reads the clock, and counts the failure of its trial only when it has done so. Who
is refused in between is told of one failure less than everybody after.
-/

namespace AdmissionControl

namespace Breaker

private theorem returned_opened {breaker : Breaker} (opened : breaker.word.state = .opened)
    (permit : Permit) :
    breaker.succeed permit = (breaker, []) ∧ breaker.fail permit = (breaker, none) ∧
      (breaker.discard permit).failures = breaker.failures := by
  cases permit with
  | ordinary => simp [succeed, fail, discard, opened]
  | trial round =>
    have ended : breaker.word ≠ ⟨.halfOpen, round⟩ := by
      intro current
      rw [current] at opened
      cases opened
    refine ⟨by simp [succeed, ended], by simp [fail, ended], ?_⟩
    simp only [discard]
    split <;> rfl

end Breaker

/-- A trial has failed and opened the breaker, and its failure is yet to be counted. -/
def HeldUp.uncounted : HeldUp → Bool
  | opening .trialFailed _ => true
  | opening (.tripped _) _ | asking .. => false

namespace Scene

def uncounted (scene : Scene) : Nat := scene.heldUp.countP HeldUp.uncounted

/-- The failures up to the opening of a breaker, whether they have been counted or not. -/
def due (scene : Scene) : Nat := scene.breaker.failures + scene.uncounted

variable {scene : Scene} {now : Nat} {refusal : CircuitOpen}

private theorem inquire_due (scene : Scene) (now readings : Nat) :
    (scene.inquire now readings).due = scene.due := by
  cases state : scene.breaker.word.state with
  | closed => simp [inquire, Breaker.inquire_closed state, due, uncounted, answer, change]
  | opened =>
    simp [inquire, Breaker.inquire_opened state, due, uncounted, change, HeldUp.uncounted]
  | halfOpen =>
    by_cases full : scene.breaker.settings.halfOpenMaxCalls ≤ scene.breaker.trials
    · simp [inquire, Breaker.inquire_full state full, due, uncounted, answer, change]
    · simp [inquire, Breaker.inquire_free state full, due, uncounted, answer, change]

private theorem settle_due (opened : scene.breaker.word.state = .opened) (caller : Nat)
    (verdict : Verdict) : (scene.settle caller verdict).due = scene.due := by
  simp only [settle]
  split
  · rfl
  · next permit held =>
    obtain ⟨succeeded, failed, discarded⟩ := Breaker.returned_opened opened permit
    cases verdict with
    | success => simp only [giveBack, succeeded]; rfl
    | failure => simp only [giveBack, failed]; rfl
    | none => simp only [giveBack, due, uncounted, change, discarded]

private theorem read_due (scene : Scene) (now : Nat) : (scene.read now).due = scene.due := by
  cases heldUp : scene.heldUp with
  | nil => simp only [read, heldUp]
  | cons caller outer =>
    cases caller with
    | opening opening place =>
      cases opening with
      | tripped failures =>
        simp [read, heldUp, due, uncounted, change, Breaker.stamp, HeldUp.uncounted]
      | trialFailed =>
        simp only [read, heldUp, due, uncounted, change, Breaker.stamp, List.countP_cons,
          HeldUp.uncounted, if_true]
        exact Nat.add_right_comm _ 1 _
    | asking seen openedAt readings =>
      have timed : (scene.breaker.timed seen openedAt now).1.failures = scene.breaker.failures := by
        simp only [Breaker.timed]
        split
        · rfl
        · split
          · split <;> rfl
          · rfl
      simp only [read, heldUp]
      split
      · simp [due, uncounted, answer, change, heldUp, HeldUp.uncounted, timed]
      · rw [inquire_due]
        simp [due, uncounted, change, heldUp, HeldUp.uncounted, timed]

theorem step_due (opened : scene.breaker.word.state = .opened) (turn : Turn) :
    (scene.step turn).due = scene.due := by
  cases turn with
  | ask => exact scene.inquire_due 0 0
  | settle caller verdict => exact settle_due opened caller verdict
  | read now => exact scene.read_due now

/-- The breaker stays open, and all callers whose failures have opened it come to their ends. -/
structure SeesOut (scene : Scene) (later : List Turn) : Prop where
  opened : ∀ some, some <+: later → (scene.run some).breaker.word.state = .opened
  told : ∀ opening place, .opening opening place ∉ (scene.run later).heldUp

/-- As long as a breaker stays open its failures stay the same, but for those yet to be counted. -/
theorem run_due {later : List Turn}
    (opened : ∀ some, some <+: later → (scene.run some).breaker.word.state = .opened) :
    (scene.run later).due = scene.due := by
  induction later generalizing scene with
  | nil => rfl
  | cons turn rest ih =>
    have stays : ∀ some, some <+: rest →
        ((scene.step turn).run some).breaker.word.state = .opened := by
      intro some first
      exact opened (turn :: some) (List.cons_prefix_cons.mpr ⟨rfl, first⟩)
    exact (ih stays).trans (step_due (opened [] List.nil_prefix) turn)

private theorem SeesOut.uncounted {later : List Turn} (seen : scene.SeesOut later) :
    (scene.run later).uncounted = 0 := by
  refine List.countP_eq_zero.mpr ?_
  rintro (_ | ⟨opening, place⟩) member
  · exact Bool.false_ne_true
  · exact absurd member (seen.told opening place)

private theorem read_seesOut (opened : scene.breaker.word.state = .opened) :
    ((scene.read 0).breaker.word.state = .opened) ∧ (scene.read 0).heldUp = scene.heldUp.tail := by
  cases heldUp : scene.heldUp with
  | nil => simp [read, heldUp, opened]
  | cons caller outer =>
    cases caller with
    | opening opening place =>
      have word := (scene.breaker.stamp_keeps opening 0).2.1
      simp [read, heldUp, change, word, opened]
    | asking seen openedAt readings =>
      have early : 0 - openedAt < scene.breaker.settings.recoveryMillis := by
        rw [Nat.zero_sub]
        exact scene.breaker.settings.recoveryMillis_pos
      simp [read, heldUp, Breaker.timed_early early, answer, change, opened]

/-- There is always a way for them all to come to their ends while the breaker is open. -/
theorem exists_seesOut (opened : scene.breaker.word.state = .opened) :
    ∃ later, scene.SeesOut later := by
  induction callers : scene.heldUp generalizing scene with
  | nil =>
    refine ⟨[], ?_, ?_⟩
    · intro some first
      rw [List.prefix_nil.mp first]
      exact opened
    · intro opening place member
      rw [show (scene.run []).heldUp = scene.heldUp from rfl, callers] at member
      cases member
  | cons caller outer ih =>
    obtain ⟨stays, left⟩ := read_seesOut opened
    rw [callers] at left
    obtain ⟨later, seen⟩ := ih stays left
    refine ⟨.read 0 :: later, ?_, seen.told⟩
    intro some first
    cases some with
    | nil => exact opened
    | cons turn some =>
      obtain ⟨rfl, rest⟩ := List.cons_prefix_cons.mp first
      exact seen.opened some rest

/-- A refusal tells the failures that the breaker has counted at that moment. -/
theorem inquire_refused {readings moment : Nat}
    (refused : (scene.inquire now readings).record =
      scene.record ++ [⟨.ask moment, some (.error refusal)⟩]) :
    refusal.failures = (scene.inquire now readings).breaker.failures := by
  cases state : scene.breaker.word.state with
  | closed => simp [inquire, Breaker.inquire_closed state, answer, change] at refused
  | opened => simp [inquire, Breaker.inquire_opened state, change] at refused
  | halfOpen =>
    by_cases full : scene.breaker.settings.halfOpenMaxCalls ≤ scene.breaker.trials
    · simp only [inquire, Breaker.inquire_full state full, answer, change] at refused ⊢
      simp only [List.append_cancel_left_eq, List.cons.injEq, Call.mk.injEq, Option.some.injEq,
        Except.error.injEq, and_true] at refused
      rw [← refused.2]
      rfl
    · simp [inquire, Breaker.inquire_free state full, answer, change] at refused

theorem step_refused {turn : Turn}
    (refused : (scene.step turn).record = scene.record ++ [⟨.ask now, some (.error refusal)⟩]) :
    refusal.failures = (scene.step turn).breaker.failures := by
  cases turn with
  | ask => exact inquire_refused refused
  | settle caller verdict =>
    simp only [step, settle] at refused
    split at refused
    · simp at refused
    · simp [giveBack_keeps] at refused
  | read moment =>
    cases heldUp : scene.heldUp with
    | nil => simp [step, read, heldUp] at refused
    | cons caller outer =>
      cases caller with
      | opening opening place =>
        have longer := congrArg List.length refused
        simp [step, read, heldUp, change] at longer
      | asking seen openedAt readings =>
        by_cases early : moment - openedAt < scene.breaker.settings.recoveryMillis
        · simp only [step, read, heldUp, Breaker.timed_early early, answer, change] at refused ⊢
          simp only [List.append_cancel_left_eq, List.cons.injEq, Call.mk.injEq, Option.some.injEq,
            Except.error.injEq, and_true] at refused
          rw [← refused.2]
          rfl
        · have again := (Breaker.timed_again seen early).2
          have reads := read_again heldUp (Prod.ext rfl (Prod.ext rfl again))
          simp only [step, reads] at refused ⊢
          exact inquire_refused refused

/-- Whoever is refused by an open breaker is told of all failures of which anybody will be told in
that open period, but for those of the trials that are yet to be counted. So it is told of them all
if and only if there is no such trial. -/
theorem refusal_reports_iff (settings : BreakerSettings) (turns : List Turn) (turn : Turn)
    (refused : ((Scene.new settings).run (turns ++ [turn])).record =
      ((Scene.new settings).run turns).record ++ [⟨.ask now, some (.error refusal)⟩])
    (opened : ((Scene.new settings).run (turns ++ [turn])).breaker.word.state = .opened) :
    let scene := (Scene.new settings).run (turns ++ [turn])
    (∀ later, scene.SeesOut later →
      (scene.run later).breaker.failures = refusal.failures + scene.uncounted) ∧
    ((∀ later, scene.SeesOut later → (scene.run later).breaker.failures = refusal.failures) ↔
      scene.uncounted = 0) := by
  have stepped : (Scene.new settings).run (turns ++ [turn]) =
      ((Scene.new settings).run turns).step turn := List.foldl_concat _ _ _ _
  rw [stepped] at refused
  have reported := step_refused refused
  rw [← stepped] at reported
  intro scene
  have counts (later : List Turn) (seen : scene.SeesOut later) :
      (scene.run later).breaker.failures = refusal.failures + scene.uncounted := by
    have same := run_due seen.opened
    rw [due, seen.uncounted, due, ← reported] at same
    exact same
  refine ⟨counts, ?_, ?_⟩
  · intro reports
    obtain ⟨later, seen⟩ := exists_seesOut opened
    have all := counts later seen
    rw [reports later seen] at all
    omega
  · intro none later seen
    rw [counts later seen, none, Nat.add_zero]

/-- The first trial fails, and while its caller reads the clock somebody is refused and told of one
failure. There have been two. -/
theorem refusal_reports_trial :
    let settings : BreakerSettings := ⟨1, .ofMillis 1000, 1⟩
    let turns : List Turn := [.ask, .settle 0 .failure, .read 0, .ask, .read 1000,
      .settle 1 .failure, .ask]
    let scene := (Scene.new settings).run (turns ++ [.read 1000])
    scene.record =
        ((Scene.new settings).run turns).record ++ [⟨.ask 1000, some (.error ⟨1, .ofMillis 0⟩)⟩] ∧
      scene.breaker.word.state = .opened ∧ scene.uncounted = 1 ∧ scene.SeesOut [.read 1000] ∧
      (scene.run [.read 1000]).breaker.failures = 1 + scene.uncounted := by
  intro settings turns scene
  have refused : scene.record =
      ((Scene.new settings).run turns).record ++ [⟨.ask 1000, some (.error ⟨1, .ofMillis 0⟩)⟩] := by
    decide
  have opened : scene.breaker.word.state = .opened := by decide
  have seen : scene.SeesOut [.read 1000] := by
    refine ⟨?_, ?_⟩
    · intro some first
      rcases List.prefix_cons_iff.mp first with rfl | ⟨rest, rfl, none⟩
      · decide
      · rw [List.prefix_nil.mp none]
        decide
    · intro opening place member
      have none : (scene.run [.read 1000]).heldUp = [] := by decide
      rw [none] at member
      cases member
  have counts := (refusal_reports_iff settings turns (.read 1000) refused opened).1 _ seen
  exact ⟨refused, opened, by decide, seen, counts⟩

end Scene

/-- A caller who gets in while that of a failed trial reads the clock finds the breaker open and is
told of one failure, and after that call the breaker shows two. -/
theorem World.refusal_lacks_trial :
    let world : World := {
      clocks := ⟨#[⟨0⟩]⟩
      circuits := ⟨#[{ breaker := .new ⟨1, .ofMillis 1000, 1⟩, clock := ⟨0⟩ }]⟩ }
    let (first, asked) := world.allow ⟨0⟩
    let opened := (asked.resolve ⟨0⟩ .ordinary .failure).advanceClock ⟨0⟩ 1000
    let (second, tried) := opened.allow ⟨0⟩
    let failed := (tried.interrupt ⟨⟨0⟩, 0, ⟨0⟩, none⟩).resolve ⟨0⟩ (.trial 1) .failure
    first = .ok .ordinary ∧ second = .ok (.trial 1) ∧
      failed.sightings.map (fun sighting => (sighting.answer, sighting.breaker.state)) =
        [(.error ⟨1, .ofMillis 0⟩, .opened)] ∧
      (failed.breaker ⟨0⟩).state = .opened ∧ (failed.breaker ⟨0⟩).failures = 2 := by
  decide

end AdmissionControl
