import AdmissionControl.Proofs.Breaker.Serial

namespace AdmissionControl

namespace HeldUp

/-- The call of a caller who is held up, unless it is on record already. -/
def call? : HeldUp → Option Turn
  | asking .. => some .ask
  | opening .. => none

end HeldUp

namespace Scene

def calls (scene : Scene) : List Turn :=
  scene.record.map (Turn.ofVisit ·.visit) ++ scene.heldUp.filterMap HeldUp.call?

variable {scene : Scene}

private theorem inquire_cases (scene : Scene) (now readings : Nat) :
    (scene.inquire now readings).breaker.openedAt = scene.breaker.openedAt ∧
      ((∃ answer, (scene.inquire now readings).record =
            scene.record ++ [⟨.ask now, some answer⟩] ∧
          (scene.inquire now readings).heldUp = scene.heldUp) ∨
        (scene.inquire now readings).record = scene.record ∧
          (scene.inquire now readings).heldUp =
            .asking scene.breaker.word scene.breaker.openedAt readings :: scene.heldUp) := by
  cases state : scene.breaker.word.state with
  | closed =>
    simp only [inquire, Breaker.inquire_closed state]
    exact ⟨rfl, .inl ⟨_, rfl, rfl⟩⟩
  | opened =>
    simp only [inquire, Breaker.inquire_opened state]
    exact ⟨rfl, .inr ⟨rfl, rfl⟩⟩
  | halfOpen =>
    obtain ⟨notices, same⟩ := inquire_halfOpen state now readings
    rw [same]
    exact ⟨scene.breaker.takeTrial_keeps.2.2, .inl ⟨_, rfl, rfl⟩⟩

theorem giveBack_keeps (scene : Scene) (permit : Permit) (place : Nat) (verdict : Verdict) :
    (scene.giveBack permit place verdict).record = scene.record ∧
      (scene.giveBack permit place verdict).heldUp.filterMap HeldUp.call? =
        scene.heldUp.filterMap HeldUp.call? := by
  cases verdict with
  | success => exact ⟨rfl, rfl⟩
  | none => exact ⟨rfl, rfl⟩
  | failure =>
    simp only [giveBack]
    split <;> exact ⟨rfl, rfl⟩

private theorem inquire_calls (scene : Scene) (now readings : Nat) :
    (scene.inquire now readings).calls.Perm (scene.calls ++ [.ask]) := by
  obtain ⟨_, ⟨answer, record, heldUp⟩ | ⟨record, heldUp⟩⟩ := scene.inquire_cases now readings
  · simp only [calls, record, heldUp, List.map_append, List.append_assoc]
    exact List.perm_append_comm.append_left _
  · simp only [calls, record, heldUp, List.append_assoc, List.filterMap_cons, HeldUp.call?]
    exact (@List.perm_append_comm _ [Turn.ask] _).append_left _

private theorem settle_calls (scene : Scene) (caller : Nat) (verdict : Verdict) :
    (scene.settle caller verdict).calls.Perm (scene.calls ++ [.settle caller verdict]) := by
  have settled : (scene.settle caller verdict).record =
        scene.record ++ [⟨.settle caller verdict 0, none⟩] ∧
      (scene.settle caller verdict).heldUp.filterMap HeldUp.call? =
        scene.heldUp.filterMap HeldUp.call? := by
    simp only [settle]
    split
    · exact ⟨rfl, rfl⟩
    · exact giveBack_keeps _ _ _ _
  simp only [calls, settled, List.map_append, List.append_assoc]
  exact List.perm_append_comm.append_left _

private theorem timed_calls (now place : Nat) (record : List Call) :
    (record.modify place (Call.timed now)).map (Turn.ofVisit ·.visit) =
      record.map (Turn.ofVisit ·.visit) := by
  induction record generalizing place with
  | nil => simp
  | cons call rest ih =>
    cases place with
    | zero =>
      obtain ⟨visit, answer⟩ := call
      cases visit <;> rfl
    | succ place => simpa using ih place

private theorem read_calls (scene : Scene) (now : Nat) :
    (scene.read now).calls.Perm scene.calls := by
  cases heldUp : scene.heldUp with
  | nil => simp [read, heldUp]
  | cons caller outer =>
    cases caller with
    | opening opening place =>
      simp [read, heldUp, calls, change, timed_calls, List.filterMap_cons, HeldUp.call?]
    | asking seen openedAt readings =>
      have waited : scene.calls.Perm
          ((scene.record.map (Turn.ofVisit ·.visit) ++ outer.filterMap HeldUp.call?) ++ [.ask]) := by
        simp only [calls, heldUp, List.append_assoc, List.filterMap_cons, HeldUp.call?]
        exact (@List.perm_append_comm _ [Turn.ask] _).append_left _
      simp only [read, heldUp]
      split
      · refine List.Perm.trans ?_ waited.symm
        simp only [calls, answer, change, List.map_append, List.append_assoc]
        exact List.perm_append_comm.append_left _
      · exact (inquire_calls _ _ _).trans waited.symm

theorem step_calls (scene : Scene) (turn : Turn) :
    (scene.step turn).calls.Perm
      (scene.calls ++ if turn.reading?.isNone then [turn] else []) := by
  cases turn with
  | ask => exact scene.inquire_calls 0 0
  | settle caller verdict => exact scene.settle_calls caller verdict
  | read now => simpa [step, Turn.reading?] using scene.read_calls now

/-- No call is lost, and none takes effect twice. -/
theorem run_calls (scene : Scene) (turns : List Turn) :
    (scene.run turns).calls.Perm (scene.calls ++ turns.filter (·.reading?.isNone)) := by
  induction turns generalizing scene with
  | nil => simp [run]
  | cons turn rest ih =>
    have stepped := (scene.step_calls turn).append_right (rest.filter (·.reading?.isNone))
    refine (ih (scene.step turn)).trans (stepped.trans ?_)
    cases reads : turn.reading? <;> simp [reads]

/-- The record grows at its end: who has been served before another call begins comes first. -/
theorem step_record (scene : Scene) (turn : Turn) :
    scene.record.map (Turn.ofVisit ·.visit) <+:
      (scene.step turn).record.map (Turn.ofVisit ·.visit) := by
  have inquired (scene : Scene) (now readings : Nat) :
      scene.record.map (Turn.ofVisit ·.visit) <+:
        (scene.inquire now readings).record.map (Turn.ofVisit ·.visit) := by
    obtain ⟨_, ⟨answer, record, _⟩ | ⟨record, _⟩⟩ := scene.inquire_cases now readings <;>
      simp [record]
  cases turn with
  | ask => exact inquired scene 0 0
  | settle caller verdict =>
    simp only [step, settle]
    split
    · simp
    · simp [giveBack_keeps]
  | read now =>
    simp only [step, read]
    split
    · exact List.prefix_rfl
    · split
      · simp [answer, change]
      · exact List.prefix_rfl.trans (inquired (Scene.change { scene with heldUp := _ } _ _) _ _)
    · simp [change, timed_calls]

theorem run_record (scene : Scene) (turns : List Turn) :
    scene.record.map (Turn.ofVisit ·.visit) <+:
      (scene.run turns).record.map (Turn.ofVisit ·.visit) := by
  induction turns generalizing scene with
  | nil => exact List.prefix_rfl
  | cons turn rest ih => exact (scene.step_record turn).trans (ih _)

private theorem read_heldUp {caller : HeldUp} {outer : List HeldUp}
    (heldUp : scene.heldUp = caller :: outer) (now : Nat) :
    (scene.read now).heldUp = outer ∨
      ∃ seen openedAt seen' openedAt' readings, caller = .asking seen openedAt readings ∧
        (scene.read now).heldUp = .asking seen' openedAt' (readings + 1) :: outer := by
  cases caller with
  | opening opening place => exact .inl (by simp [read, heldUp, change])
  | asking seen openedAt readings =>
    simp only [read, heldUp]
    split
    · exact .inl rfl
    · generalize changed : Scene.change { scene with heldUp := outer } _ _ = resumed
      have left : resumed.heldUp = outer := by
        subst changed
        rfl
      obtain ⟨_, ⟨_, _, answered⟩ | ⟨_, held⟩⟩ := resumed.inquire_cases now (readings + 1)
      · exact .inl (answered.trans left)
      · exact .inr ⟨_, _, _, _, _, rfl, held.trans (by rw [left])⟩

private theorem read_openedAt {seen : Word} {openedAt readings now : Nat} {outer : List HeldUp}
    (heldUp : scene.heldUp = .asking seen openedAt readings :: outer)
    (cleared : (scene.read now).breaker.openedAt ≠ scene.breaker.openedAt) :
    openedAt + scene.breaker.settings.recoveryMillis ≤ now ∧ scene.breaker.openedAt = openedAt := by
  have positive := scene.breaker.settings.recoveryMillis_pos
  by_cases early : now - openedAt < scene.breaker.settings.recoveryMillis
  · simp [read, heldUp, Breaker.timed_early early, answer, change] at cleared
  · by_cases same : scene.breaker.openedAt = openedAt
    · exact ⟨by omega, same⟩
    · refine absurd ?_ cleared
      simp only [read, heldUp, Breaker.timed_moved early same]
      exact (inquire_cases _ _ _).1

end Scene

/-- What callers can count on in the scene to which turns have led. -/
structure Scene.Orderly (settings : BreakerSettings) (turns : List Turn) (scene : Scene) :
    Prop where
  /-- Once nobody is held up, every call has taken effect, and just once. -/
  complete : scene.heldUp = [] →
    (scene.record.map (Turn.ofVisit ·.visit)).Perm (turns.filter (·.reading?.isNone))
  /-- Then the callers could just as well have come one after the other. -/
  serial : scene.heldUp = [] → Serial settings scene.record ⟨scene.breaker, scene.permits⟩
  /-- Who is served before another call begins comes before it. -/
  ordered : ∀ more, scene.record.map (Turn.ofVisit ·.visit) <+:
    (scene.run more).record.map (Turn.ofVisit ·.visit)
  /-- A reading ends a call or takes it on to its next reading. -/
  resumed : ∀ caller outer now, scene.heldUp = caller :: outer →
    (scene.read now).heldUp = outer ∨
      ∃ seen openedAt seen' openedAt' readings, caller = .asking seen openedAt readings ∧
        (scene.read now).heldUp = .asking seen' openedAt' (readings + 1) :: outer
  /-- So many readings come to an end. -/
  returns : ∀ seen openedAt readings, .asking seen openedAt readings ∈ scene.heldUp →
    readings * settings.recoveryMillis < lastMilli
  /-- A timestamp is cleared only by a caller who saw it, in the open period that it belongs to, and
  when that has lasted for the recovery time. -/
  clears : ∀ seen openedAt readings outer now,
    scene.heldUp = .asking seen openedAt readings :: outer →
    (scene.read now).breaker.openedAt ≠ scene.breaker.openedAt →
    scene.breaker.word = seen ∧ scene.breaker.openedAt = openedAt ∧
      openedAt + settings.recoveryMillis ≤ now
  /-- No more trials are out than there may be. -/
  within : scene.breaker.state = .halfOpen → scene.breaker.trials ≤ settings.halfOpenMaxCalls
  /-- An open breaker has its timestamp, or the call that opened it is held up. -/
  stamped : scene.breaker.state = .opened → scene.breaker.openedAt < lastMilli ∨
    ∃ opening place, .opening opening place ∈ scene.heldUp

section Orderly

variable {settings : BreakerSettings} {latest : Nat} {pending : Pending} {scene : Scene}

private theorem Layers.of_nil {breaker : Breaker} (layers : Layers breaker latest pending []) :
    pending = none := by
  cases layers
  rfl

private theorem Layers.opening_mem {breaker : Breaker} {heldUp : List HeldUp} {opening : Opening}
    {place : Nat} (layers : Layers breaker latest (some (opening, place)) heldUp) :
    .opening opening place ∈ heldUp := by
  generalize same : some (opening, place) = pending at layers
  induction layers with
  | dated dated => cases same
  | opening dated =>
    cases same
    exact List.mem_cons_self
  | asking outer ih => exact List.mem_cons_of_mem _ (ih same)

/-- Readings are paid for with recovery times. -/
theorem Layers.paid {breaker : Breaker} {heldUp : List HeldUp} {seen : Word}
    {openedAt readings : Nat} (layers : Layers breaker latest pending heldUp)
    (member : .asking seen openedAt readings ∈ heldUp) :
    readings * breaker.settings.recoveryMillis ≤ latest := by
  have dated_paid (dated : Dated breaker latest (.asking seen openedAt readings)) :
      readings * breaker.settings.recoveryMillis ≤ latest :=
    Nat.le_trans dated.2.2.1 dated.2.1
  induction layers with
  | dated dated => exact dated_paid (dated _ member)
  | opening dated =>
    rcases List.mem_cons.mp member with same | member
    · cases same
    · exact dated_paid (dated _ member)
  | asking outer ih =>
    rcases List.mem_cons.mp member with same | member
    · cases same
      rw [Nat.zero_mul]
      exact Nat.zero_le _
    · exact ih member

private theorem Sound.clears {seen : Word} {openedAt readings now : Nat} {outer : List HeldUp}
    (sound : Sound settings latest pending scene)
    (heldUp : scene.heldUp = .asking seen openedAt readings :: outer)
    (cleared : (scene.read now).breaker.openedAt ≠ scene.breaker.openedAt) :
    scene.breaker.word = seen ∧ scene.breaker.openedAt = openedAt ∧
      openedAt + settings.recoveryMillis ≤ now := by
  obtain ⟨late, same⟩ := Scene.read_openedAt heldUp cleared
  refine ⟨?_, same, sound.configured ▸ late⟩
  have positive := scene.breaker.settings.recoveryMillis_pos
  have layers := sound.layers
  rw [heldUp] at layers
  cases layers with
  | asking outer => rfl
  | dated dated =>
    obtain ⟨_, _, _, ⟨found, _⟩ | ⟨_, moved⟩⟩ := dated _ List.mem_cons_self
    · exact found
    · omega

private theorem Sound.orderly {turns : List Turn} (sound : Sound settings latest pending scene)
    (calls : scene.calls.Perm (turns.filter (·.reading?.isNone))) :
    scene.Orderly settings turns where
  complete := by
    intro nobody
    simpa [Scene.calls, nobody] using calls
  serial := by
    intro nobody
    have layers := sound.layers
    rw [nobody] at layers
    cases layers.of_nil
    exact sound.serial latest (Nat.le_refl _) sound.shown
  ordered := scene.run_record
  resumed := fun _ _ now heldUp => scene.read_heldUp heldUp now
  returns := by
    intro seen openedAt readings member
    rw [← sound.configured]
    exact Nat.lt_of_le_of_lt (sound.layers.paid member) sound.shown
  clears := fun _ _ _ _ _ heldUp cleared => sound.clears heldUp cleared
  within := by
    intro halfOpen
    have cells := sound.cells
    cases pending with
    | none => exact sound.configured ▸ cells.2.2 halfOpen
    | some opening => exact absurd (cells.1.symm.trans halfOpen) (by decide)
  stamped := by
    intro opened
    cases pending with
    | none => exact .inl (Nat.lt_of_le_of_lt (sound.cells.2.1 opened).1 sound.shown)
    | some opening => exact .inr ⟨_, _, sound.layers.opening_mem⟩

end Orderly

/-- Callers who get in each other's way, to whatever depth, are served as if they had come one after
the other. -/
theorem Scene.run_orderly (settings : BreakerSettings) (turns : List Turn)
    (rising : Turn.Rising turns) : ((Scene.new settings).run turns).Orderly settings turns := by
  obtain ⟨latest, pending, sound⟩ :=
    (Sound.new settings).run turns rising fun _ _ => Nat.zero_le _
  exact sound.orderly ((Scene.new settings).run_calls turns)

/-- The first caller's failure opens the breaker, and the second asks before the timestamp is there.
While the third reads the clock, the fourth becomes a trial, and its failure opens the breaker for
another ten milliseconds. -/
theorem Scene.run_reopened :
    let settings : BreakerSettings := ⟨1, .ofMillis 10, 1⟩
    let turns : List Turn := [.ask, .settle 0 .failure, .ask, .read 5, .read 5, .ask, .ask, .read 20,
      .settle 2 .failure, .read 20, .read 20, .read 25]
    let scene := (Scene.new settings).run turns
    Turn.Rising turns ∧ scene.Orderly settings turns ∧ scene.heldUp = [] ∧
      scene.record.map (·.visit) = [.ask 0, .settle 0 .failure 5, .ask 5, .ask 20,
        .settle 2 .failure 20, .ask 25] ∧
      scene.record.map (granted ·.answer) = [some (some .ordinary), none, some none,
        some (some (.trial 1)), none, some none] ∧
      scene.breaker = ⟨settings, ⟨.opened, 1⟩, 2, 20, 0⟩ :=
  ⟨by decide, Scene.run_orderly _ _ (by decide), by decide, by decide, by decide, by decide⟩

end AdmissionControl
