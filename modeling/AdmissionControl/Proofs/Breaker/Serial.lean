import AdmissionControl.Proofs.Breaker.Interleaving
/-!
Callers who get in each other's way are served as if they had come one after the other, in the
order of the record. Two facts carry it. While an opening waits for its timestamp nothing can change
the breaker. And whoever asks and finds the timestamp that it saw before its reading also finds the
word that it saw: a later open period is stamped a whole recovery time later.
-/

namespace AdmissionControl

def granted (answer : Option (Except CircuitOpen Permit)) : Option (Option Permit) :=
  answer.map Except.toOption

namespace Desk

def new (settings : BreakerSettings) : Desk := { breaker := .new settings }

private theorem serve_concat (desk : Desk) (visits : List Visit) (visit : Visit) :
    desk.serve (visits ++ [visit]) =
      ((desk.serve visits).1 ++ [((desk.serve visits).2.visit visit).1],
        ((desk.serve visits).2.visit visit).2) := by
  induction visits generalizing desk with
  | nil => rfl
  | cons first rest ih => simp [serve, ih]

end Desk

/-- Serving the calls of a record one after the other leads to the desk, with the answers that the
record has. -/
structure Serial (settings : BreakerSettings) (record : List Call) (desk : Desk) : Prop where
  answers : ((Desk.new settings).serve (record.map Call.visit)).1.map granted =
    record.map (granted ·.answer)
  leaves : ((Desk.new settings).serve (record.map Call.visit)).2 = desk

private theorem Serial.concat {settings : BreakerSettings} {record : List Call} {desk : Desk}
    (serial : Serial settings record desk) (call : Call)
    (answer : granted (desk.visit call.visit).1 = granted call.answer) :
    Serial settings (record ++ [call]) (desk.visit call.visit).2 := by
  constructor
  · rw [List.map_append, List.map_singleton, Desk.serve_concat]
    simp [serial.answers, serial.leaves, answer]
  · rw [List.map_append, List.map_singleton, Desk.serve_concat, serial.leaves]

/-- An opening that still waits for its timestamp, and the place of its call in the record. -/
abbrev Pending := Option (Opening × Nat)

namespace Pending

def stamped (now : Nat) (breaker : Breaker) : Pending → Breaker
  | none => breaker
  | some (opening, _) => (breaker.stamp opening now).1

def timed (now : Nat) (record : List Call) : Pending → List Call
  | none => record
  | some (_, place) => record.modify place (Call.timed now)

/-- The cells of a breaker between two turns. While an opening is pending they are those of an open
breaker without a timestamp. Else a timestamp is there exactly in an open period. -/
def Cells (breaker : Breaker) (latest : Nat) : Pending → Prop
  | some _ => breaker.word.state = .opened ∧ breaker.openedAt = notOpen ∧ breaker.trials = 0
  | none =>
    (breaker.word.state ≠ .opened → breaker.openedAt = notOpen) ∧
      (breaker.word.state = .opened → breaker.openedAt ≤ latest ∧ breaker.trials = 0) ∧
      (breaker.word.state = .halfOpen → breaker.trials ≤ breaker.settings.halfOpenMaxCalls)

end Pending

/-- Who asks and saw a timestamp finds the breaker as it was then, or else a recovery time has
passed, and no timestamp that is found from then on is earlier. Each reading but the last took the
caller to a timestamp that is later by a recovery time. -/
def Dated (breaker : Breaker) (latest : Nat) : HeldUp → Prop
  | .asking seen openedAt readings =>
    seen.state = .opened ∧ openedAt ≤ latest ∧
      readings * breaker.settings.recoveryMillis ≤ openedAt ∧
      (breaker.word = seen ∧ breaker.openedAt = openedAt ∨
        openedAt + breaker.settings.recoveryMillis ≤ latest ∧
          openedAt + breaker.settings.recoveryMillis ≤ breaker.openedAt)
  | .opening .. => False

/-- The callers who are held up. Those further in than a pending opening saw no timestamp and have
not read before; all others saw one. -/
inductive Layers (breaker : Breaker) (latest : Nat) : Pending → List HeldUp → Prop where
  | dated (dated : ∀ caller ∈ heldUp, Dated breaker latest caller) :
      Layers breaker latest none heldUp
  | opening (dated : ∀ caller ∈ outer, Dated breaker latest caller) :
      Layers breaker latest (some (opening, place)) (.opening opening place :: outer)
  | asking (outer : Layers breaker latest (some pending) heldUp) :
      Layers breaker latest (some pending) (.asking breaker.word notOpen 0 :: heldUp)

/-- What every turn keeps. -/
structure Sound (settings : BreakerSettings) (latest : Nat) (pending : Pending) (scene : Scene) :
    Prop where
  configured : scene.breaker.settings = settings
  shown : latest < lastMilli
  cells : pending.Cells scene.breaker latest
  layers : Layers scene.breaker latest pending scene.heldUp
  placed : ∀ opening place, pending = some (opening, place) → place < scene.record.length
  serial : ∀ now, latest ≤ now → now < lastMilli →
    Serial settings (pending.timed now scene.record)
      ⟨pending.stamped now scene.breaker, scene.permits⟩

theorem BreakerSettings.recoveryMillis_pos (settings : BreakerSettings) :
    0 < settings.recoveryMillis :=
  Nat.lt_of_lt_of_le Nat.zero_lt_one (Nat.le_max_right _ _)

section Layers

variable {breaker changed : Breaker} {latest later : Nat} {caller : HeldUp}

private theorem Dated.unchanged (dated : Dated breaker latest caller) (rising : latest ≤ later)
    (settings : changed.settings = breaker.settings) (word : changed.word = breaker.word)
    (openedAt : changed.openedAt = breaker.openedAt) : Dated changed later caller := by
  cases caller with
  | opening opening place => exact dated
  | asking seen since readings =>
    obtain ⟨opened, past, paid, found⟩ := dated
    simp only [Dated, settings, word, openedAt]
    refine ⟨opened, Nat.le_trans past rising, paid, ?_⟩
    rcases found with same | ⟨recovered, found⟩
    · exact .inl same
    · exact .inr ⟨Nat.le_trans recovered rising, found⟩

/-- A caller's timestamp is left behind when the breaker has none, or one that has served its time,
and shows no moment before the present from now on. -/
theorem Dated.moved (dated : Dated breaker latest caller) (rising : latest ≤ later)
    (shown : latest < lastMilli) (settings : changed.settings = breaker.settings)
    (left : breaker.openedAt = notOpen ∨
      breaker.openedAt + breaker.settings.recoveryMillis ≤ later)
    (next : later ≤ changed.openedAt) : Dated changed later caller := by
  cases caller with
  | opening opening place => exact dated
  | asking seen since readings =>
    obtain ⟨opened, past, paid, found⟩ := dated
    simp only [Dated, settings]
    refine ⟨opened, Nat.le_trans past rising, paid, .inr ?_⟩
    have recovered : since + breaker.settings.recoveryMillis ≤ later := by
      rcases found with ⟨_, same⟩ | ⟨recovered, _⟩
      · rcases left with unstamped | served
        · have last : notOpen = lastMilli := rfl
          omega
        · omega
      · omega
    exact ⟨recovered, Nat.le_trans recovered next⟩

private theorem Layers.of_none {heldUp : List HeldUp} (layers : Layers breaker latest none heldUp) :
    ∀ caller ∈ heldUp, Dated breaker latest caller := by
  cases layers with
  | dated dated => exact dated

private theorem Layers.unchanged {pending : Pending} {heldUp : List HeldUp}
    (layers : Layers breaker latest pending heldUp) (rising : latest ≤ later)
    (settings : changed.settings = breaker.settings) (word : changed.word = breaker.word)
    (openedAt : changed.openedAt = breaker.openedAt) : Layers changed later pending heldUp := by
  induction layers with
  | dated dated =>
    exact .dated fun caller member => (dated caller member).unchanged rising settings word openedAt
  | opening dated =>
    exact .opening fun caller member => (dated caller member).unchanged rising settings word openedAt
  | asking outer ih =>
    rw [← word]
    exact .asking ih

end Layers

section Turns

variable {settings : BreakerSettings} {latest later : Nat} {pending : Pending} {scene next : Scene}

private theorem modify_concat {α : Type} (change : α → α) (items : List α) (last : α) (place : Nat)
    (inside : place < items.length) :
    (items ++ [last]).modify place change = items.modify place change ++ [last] := by
  induction items generalizing place with
  | nil => simp at inside
  | cons first rest ih =>
    cases place with
    | zero => rfl
    | succ place => simpa using ih place (by simpa using inside)

private theorem modify_last {α : Type} (change : α → α) (items : List α) (last : α) :
    (items ++ [last]).modify items.length change = items ++ [change last] := by
  induction items with
  | nil => rfl
  | cons first rest ih => simpa using ih

private theorem Pending.timed_concat {record : List Call} (now : Nat) (call : Call)
    (placed : ∀ opening place, pending = some (opening, place) → place < record.length) :
    pending.timed now (record ++ [call]) = pending.timed now record ++ [call] := by
  cases pending with
  | none => rfl
  | some pending =>
    obtain ⟨opening, place⟩ := pending
    exact modify_concat _ _ _ _ (placed opening place rfl)

/-- A call has taken effect, just as it would have at a desk where nobody else gets in. -/
theorem Sound.call (sound : Sound settings latest pending scene) (call : Call)
    (rising : latest ≤ later) (shown : later < lastMilli)
    (configured : next.breaker.settings = settings) (cells : pending.Cells next.breaker later)
    (layers : Layers next.breaker later pending next.heldUp)
    (record : next.record = scene.record ++ [call])
    (served : ∀ now, later ≤ now → ∃ answer,
      Desk.visit ⟨pending.stamped now scene.breaker, scene.permits⟩ call.visit =
        (answer, ⟨pending.stamped now next.breaker, next.permits⟩) ∧
      granted answer = granted call.answer) : Sound settings later pending next := by
  refine ⟨configured, shown, cells, layers, ?_, ?_⟩
  · intro opening place same
    have earlier := sound.placed opening place same
    rw [record, List.length_append]
    omega
  · intro now after before
    obtain ⟨answer, visited, given⟩ := served now after
    have serial := sound.serial now (Nat.le_trans rising after) before
    have answered := serial.concat call (by rw [visited]; exact given)
    rw [record, Pending.timed_concat now call sound.placed]
    rwa [visited] at answered

private theorem Sound.wait (sound : Sound settings latest pending scene) (rising : latest ≤ later)
    (shown : later < lastMilli) : Sound settings later pending scene := by
  refine ⟨sound.configured, shown, ?_, sound.layers.unchanged rising rfl rfl rfl, sound.placed, ?_⟩
  · have cells := sound.cells
    cases pending with
    | some _ => exact cells
    | none =>
      obtain ⟨unstamped, stamped, within⟩ := cells
      exact ⟨unstamped, fun opened => ⟨Nat.le_trans (stamped opened).1 rising, (stamped opened).2⟩,
        within⟩
  · intro now after before
    exact sound.serial now (Nat.le_trans rising after) before

theorem Scene.inquire_halfOpen (halfOpen : scene.breaker.word.state = .halfOpen)
    (now readings : Nat) :
    ∃ notices, scene.inquire now readings =
      (scene.change scene.breaker.takeTrial.2 notices).answer now scene.breaker.takeTrial.1 := by
  by_cases full : scene.breaker.settings.halfOpenMaxCalls ≤ scene.breaker.trials
  · refine ⟨[.rejected], ?_⟩
    simp [Scene.inquire, Breaker.inquire_full halfOpen full, Breaker.takeTrial, full]
  · refine ⟨[.trialStarted (scene.breaker.trials + 1) scene.breaker.settings.halfOpenMaxCalls], ?_⟩
    simp [Scene.inquire, Breaker.inquire_free halfOpen full, Breaker.takeTrial, full]

private theorem Sound.compete {asked : Scene} (sound : Sound settings latest none scene)
    (rising : latest ≤ later) (shown : later < lastMilli) (now readings : Nat)
    (permits : asked.permits = scene.permits) (record : asked.record = scene.record)
    (answer : scene.breaker.ask now = asked.breaker.takeTrial)
    (configured : asked.breaker.settings = settings)
    (halfOpen : asked.breaker.word.state = .halfOpen) (unstamped : asked.breaker.openedAt = notOpen)
    (within : asked.breaker.trials ≤ asked.breaker.settings.halfOpenMaxCalls)
    (layers : Layers asked.breaker later none asked.heldUp) :
    Sound settings later none (asked.inquire now readings) := by
  obtain ⟨notices, same⟩ := Scene.inquire_halfOpen halfOpen now readings
  obtain ⟨settings_eq, word, openedAt⟩ := asked.breaker.takeTrial_keeps
  rw [same]
  refine sound.call ⟨.ask now, some asked.breaker.takeTrial.1⟩ rising shown
    (settings_eq.trans configured) ?_ (layers.unchanged (Nat.le_refl _) settings_eq word openedAt)
    (by simp [Scene.answer, Scene.change, record]) ?_
  · refine ⟨fun _ => openedAt.trans unstamped, ?_, fun _ => ?_⟩
    · intro opened
      have impossible : asked.breaker.word.state = .opened := word ▸ opened
      simp [halfOpen] at impossible
    · exact settings_eq.symm ▸ Breaker.takeTrial_within within
  · intro reading _
    refine ⟨some asked.breaker.takeTrial.1, ?_, rfl⟩
    simp [Desk.visit, Pending.stamped, answer, Scene.answer, Scene.change, permits]

private theorem Sound.inquire (sound : Sound settings latest none scene) (now readings : Nat)
    (paid : scene.breaker.word.state = .opened →
      readings * settings.recoveryMillis ≤ scene.breaker.openedAt) :
    Sound settings latest none (scene.inquire now readings) := by
  obtain ⟨unstamped, stamped, within⟩ := sound.cells
  have layers := sound.layers
  cases state : scene.breaker.word.state with
  | closed =>
    simp only [Scene.inquire, Breaker.inquire_closed state]
    refine sound.call _ (Nat.le_refl _) sound.shown sound.configured sound.cells layers rfl ?_
    intro reading _
    refine ⟨some (.ok .ordinary), ?_, rfl⟩
    simp only [Desk.visit, Pending.stamped, Breaker.ask_closed state]
    rfl
  | halfOpen =>
    exact sound.compete (Nat.le_refl _) sound.shown now readings rfl rfl
      (Breaker.ask_halfOpen state now) sound.configured state (unstamped (by simp [state]))
      (within state) layers
  | opened =>
    simp only [Scene.inquire, Breaker.inquire_opened state]
    refine ⟨sound.configured, sound.shown, sound.cells, ?_, sound.placed, sound.serial⟩
    cases layers with
    | dated dated =>
      apply Layers.dated
      intro caller member
      rcases List.mem_cons.mp member with same | outer
      · subst same
        have paid : readings * scene.breaker.settings.recoveryMillis ≤ scene.breaker.openedAt :=
          sound.configured.symm ▸ paid state
        exact ⟨state, (stamped state).1, paid, .inl ⟨rfl, rfl⟩⟩
      · exact dated caller outer

private theorem Sound.inquire_pending {opening : Opening × Nat}
    (sound : Sound settings latest (some opening) scene) (now : Nat) :
    Sound settings latest (some opening) (scene.inquire now 0) := by
  obtain ⟨opened, unstamped, counted⟩ := sound.cells
  simp only [Scene.inquire, Breaker.inquire_opened opened, unstamped]
  exact ⟨sound.configured, sound.shown, sound.cells, .asking sound.layers, sound.placed,
    sound.serial⟩

private theorem Scene.giveBack_quiet (scene : Scene) {permit : Permit} {verdict : Verdict}
    (quiet : verdict = .failure → (scene.breaker.fail permit).2 = none) (place now : Nat) :
    ∃ notices, scene.giveBack permit place verdict =
      scene.change (scene.breaker.settle permit verdict now) notices := by
  cases verdict with
  | success => exact ⟨(scene.breaker.succeed permit).2, rfl⟩
  | none => exact ⟨[], rfl⟩
  | failure =>
    refine ⟨[], ?_⟩
    simp [Scene.giveBack, Breaker.settle, quiet rfl]

private theorem Sound.settle_quiet {permit : Permit} {verdict : Verdict} {caller : Nat}
    (sound : Sound settings latest none scene)
    (held : scene.permits[caller]?.join = some permit)
    (quiet : verdict = .failure → (scene.breaker.fail permit).2 = none) :
    Sound settings latest none (scene.settle caller verdict) := by
  obtain ⟨unstamped, stamped, within⟩ := sound.cells
  obtain ⟨openedAt, trials, word⟩ := Breaker.settle_quiet quiet 0
  obtain ⟨configured, _⟩ := scene.breaker.settle_keeps permit verdict 0
  simp only [Scene.settle, held]
  obtain ⟨notices, given⟩ := Scene.giveBack_quiet
    { scene with
      permits := scene.permits.set caller none
      record := scene.record ++ [⟨.settle caller verdict 0, none⟩] } quiet scene.record.length 0
  rw [given]
  refine sound.call ⟨.settle caller verdict 0, none⟩ (Nat.le_refl _) sound.shown
    (configured.trans sound.configured) ?_ ?_ rfl ?_
  · rcases word with same | ⟨halfOpen, closed⟩
    · refine ⟨?_, ?_, ?_⟩
      · intro moved
        exact openedAt.trans (unstamped (same ▸ moved))
      · intro opened
        obtain ⟨past, counted⟩ := stamped (same ▸ opened)
        exact ⟨openedAt.symm ▸ past, Nat.le_zero.mp (counted ▸ trials)⟩
      · intro halfOpen
        exact configured.symm ▸ Nat.le_trans trials (within (same ▸ halfOpen))
    · refine ⟨fun _ => openedAt.trans (unstamped (by simp [halfOpen])), ?_, ?_⟩
      · intro opened
        exact absurd (closed.symm.trans opened) (by decide)
      · intro halfOpen
        exact absurd (closed.symm.trans halfOpen) (by decide)
  · rcases word with same | ⟨halfOpen, _⟩
    · exact sound.layers.unchanged (Nat.le_refl _) configured same openedAt
    · have cleared := unstamped (by simp [halfOpen])
      refine .dated fun other member => (sound.layers.of_none other member).moved (Nat.le_refl _)
        sound.shown configured (.inl cleared) ?_
      exact openedAt.symm ▸ cleared.symm ▸ Nat.le_of_lt sound.shown
  · intro now _
    refine ⟨none, ?_, rfl⟩
    simp [Desk.visit, Pending.stamped, held, Scene.change]

private theorem Sound.settle_opens {permit : Permit} {caller : Nat} {opening : Opening}
    (sound : Sound settings latest none scene)
    (held : scene.permits[caller]?.join = some permit)
    (opens : (scene.breaker.fail permit).2 = some opening) :
    Sound settings latest (some (opening, scene.record.length)) (scene.settle caller .failure) := by
  obtain ⟨unstamped, _, _⟩ := sound.cells
  obtain ⟨unopened, configured, opened, openedAt, counted⟩ := Breaker.fail_opens opens
  have cleared := unstamped unopened
  simp only [Scene.settle, held, Scene.giveBack, opens]
  refine ⟨configured.trans sound.configured, sound.shown, ⟨opened, openedAt.trans cleared, counted⟩,
    .opening ?_, ?_, ?_⟩
  · intro other member
    refine (sound.layers.of_none other member).moved (Nat.le_refl _) sound.shown configured
      (.inl cleared) ?_
    exact openedAt.symm ▸ cleared.symm ▸ Nat.le_of_lt sound.shown
  · intro _ place same
    cases same
    simp [Scene.change]
  · intro now after before
    have visited : Desk.visit ⟨scene.breaker, scene.permits⟩ (.settle caller .failure now) =
        (none,
          ⟨((scene.breaker.fail permit).1.stamp opening now).1, scene.permits.set caller none⟩) := by
      simp [Desk.visit, held, Breaker.settle_fail opens]
    have served := (sound.serial now after before).concat ⟨.settle caller .failure now, none⟩
      (by simp [Pending.stamped, visited])
    simp only [Pending.stamped, Pending.timed, visited] at served
    simp only [Pending.timed, Scene.change, modify_last]
    exact served

private theorem Sound.settle_nobody {caller : Nat} (sound : Sound settings latest pending scene)
    (nobody : scene.permits[caller]?.join = none) (verdict : Verdict) :
    Sound settings latest pending (scene.settle caller verdict) := by
  simp only [Scene.settle, nobody]
  refine sound.call _ (Nat.le_refl _) sound.shown sound.configured sound.cells sound.layers rfl ?_
  intro now _
  exact ⟨none, by simp [Desk.visit, nobody], rfl⟩

private theorem Sound.settle_pending {opening : Opening × Nat} (caller : Nat) (verdict : Verdict)
    (sound : Sound settings latest (some opening) scene) :
    Sound settings latest (some opening) (scene.settle caller verdict) := by
  obtain ⟨opened, _, counted⟩ := sound.cells
  cases held : scene.permits[caller]?.join with
  | none => exact sound.settle_nobody held verdict
  | some permit =>
    simp only [Scene.settle, held]
    have quiet : verdict = .failure → (scene.breaker.fail permit).2 = none :=
      fun _ => Breaker.fail_opened opened permit
    obtain ⟨notices, given⟩ := Scene.giveBack_quiet
      { scene with
        permits := scene.permits.set caller none
        record := scene.record ++ [⟨.settle caller verdict 0, none⟩] } quiet scene.record.length 0
    rw [given, Breaker.settle_opened opened counted]
    refine sound.call ⟨.settle caller verdict 0, none⟩ (Nat.le_refl _) sound.shown sound.configured
      sound.cells sound.layers rfl ?_
    intro now _
    obtain ⟨_, word, trials, _⟩ := scene.breaker.stamp_keeps opening.1 now
    refine ⟨none, ?_, rfl⟩
    simp [Desk.visit, Pending.stamped, held, Scene.change,
      Breaker.settle_opened (word ▸ opened) (trials.trans counted)]

private theorem Sound.settle (caller : Nat) (verdict : Verdict)
    (sound : Sound settings latest pending scene) :
    ∃ pending, Sound settings latest pending (scene.settle caller verdict) := by
  cases pending with
  | some opening => exact ⟨some opening, sound.settle_pending caller verdict⟩
  | none =>
    cases held : scene.permits[caller]?.join with
    | none => exact ⟨none, sound.settle_nobody held verdict⟩
    | some permit =>
      by_cases quiet : verdict = .failure → (scene.breaker.fail permit).2 = none
      · exact ⟨none, sound.settle_quiet held quiet⟩
      · rw [Classical.not_imp] at quiet
        obtain ⟨failure, opens⟩ := quiet
        obtain ⟨opening, opens⟩ := Option.ne_none_iff_exists'.mp opens
        subst failure
        exact ⟨_, sound.settle_opens held opens⟩

private theorem Sound.read_opening {opening : Opening} {place now : Nat} {outer : List HeldUp}
    (sound : Sound settings latest pending scene) (rising : latest ≤ now) (shown : now < lastMilli)
    (heldUp : scene.heldUp = .opening opening place :: outer) :
    Sound settings now none (scene.read now) := by
  have layers := sound.layers
  have cells := sound.cells
  have serial := sound.serial now rising shown
  rw [heldUp] at layers
  obtain ⟨settings_eq, word, trials, openedAt⟩ := scene.breaker.stamp_keeps opening now
  cases layers with
  | dated dated => exact absurd (dated _ List.mem_cons_self) (by simp [Dated])
  | opening dated =>
    obtain ⟨opened, unstamped, counted⟩ := cells
    simp only [Scene.read, heldUp]
    refine ⟨settings_eq.trans sound.configured, shown, ⟨?_, ?_, ?_⟩, .dated ?_, by simp, ?_⟩
    · intro moved
      exact absurd (word ▸ opened) moved
    · intro _
      exact ⟨Nat.le_of_eq openedAt, trials.trans counted⟩
    · intro halfOpen
      exact absurd ((congrArg Word.state word ▸ opened).symm.trans halfOpen) (by decide)
    · intro caller member
      exact (dated caller member).moved rising sound.shown settings_eq (.inl unstamped)
        (Nat.le_of_eq openedAt.symm)
    · intro _ _ _
      exact serial

private theorem Sound.read_early {seen : Word} {openedAt readings now : Nat} {outer : List HeldUp}
    (sound : Sound settings latest pending scene) (rising : latest ≤ now) (shown : now < lastMilli)
    (heldUp : scene.heldUp = .asking seen openedAt readings :: outer)
    (early : now - openedAt < scene.breaker.settings.recoveryMillis)
    (layers : Layers scene.breaker latest pending outer)
    (served : ∀ later, now ≤ later → ∃ refusal,
      (pending.stamped later scene.breaker).ask now =
        (.error refusal, pending.stamped later scene.breaker)) :
    Sound settings now pending (scene.read now) := by
  simp only [Scene.read, heldUp, Breaker.timed_early early]
  have waited := sound.wait rising shown
  refine sound.call _ rising shown sound.configured waited.cells
    (layers.unchanged rising rfl rfl rfl) rfl ?_
  intro later after
  obtain ⟨refusal, refused⟩ := served later after
  refine ⟨some (.error refusal), ?_, rfl⟩
  simp [Desk.visit, refused, Scene.answer, Scene.change, Except.toOption]

private theorem Sound.read_pending {opening : Opening × Nat} {seen : Word}
    {openedAt readings now : Nat}
    {outer : List HeldUp} (sound : Sound settings latest (some opening) scene)
    (rising : latest ≤ now) (shown : now < lastMilli)
    (heldUp : scene.heldUp = .asking seen openedAt readings :: outer) :
    Sound settings now (some opening) (scene.read now) := by
  obtain ⟨opened, unstamped, _⟩ := sound.cells
  have positive := scene.breaker.settings.recoveryMillis_pos
  have layers := sound.layers
  rw [heldUp] at layers
  cases layers with
  | asking layers =>
    refine sound.read_early rising shown heldUp ?_ layers ?_
    · have last : notOpen = lastMilli := rfl
      omega
    · intro later after
      obtain ⟨configured, word, _, openedAt⟩ := scene.breaker.stamp_keeps opening.1 later
      refine ⟨_, Breaker.ask_early (word ▸ opened) ?_⟩
      simp only [Pending.stamped, configured, openedAt]
      omega

/-- Who reads the clock while no opening is pending is refused, competes for a trial of the round
that it begins, or asks again after an open period that it did not see before. -/
theorem Sound.read_dated {seen : Word} {openedAt readings now : Nat} {outer : List HeldUp}
    (sound : Sound settings latest none scene) (rising : latest ≤ now) (shown : now < lastMilli)
    (heldUp : scene.heldUp = .asking seen openedAt readings :: outer) :
    Sound settings now none (scene.read now) := by
  have dated := sound.layers.of_none
  have unopened := sound.cells
  rw [heldUp] at dated
  obtain ⟨opened, past, paid, found⟩ := dated _ List.mem_cons_self
  have others : ∀ caller ∈ outer, Dated scene.breaker latest caller :=
    fun caller member => dated caller (List.mem_cons_of_mem _ member)
  by_cases early : now - openedAt < scene.breaker.settings.recoveryMillis
  · obtain ⟨rfl, rfl⟩ | ⟨recovered, _⟩ := found
    · exact sound.read_early rising shown heldUp early (.dated others) fun _ _ =>
        ⟨_, Breaker.ask_early opened early⟩
    · omega
  · by_cases same : scene.breaker.openedAt = openedAt
    · obtain ⟨rfl, _⟩ | ⟨_, recovered⟩ := found
      · subst same
        simp only [Scene.read, heldUp, Breaker.timed_late early]
        refine sound.compete rising shown now (readings + 1) rfl rfl
          (Breaker.ask_late opened early) sound.configured rfl rfl ?_ (.dated ?_)
        · exact (unopened.2.1 opened).2 ▸ Nat.zero_le _
        · intro caller member
          refine (others caller member).moved rising sound.shown rfl (.inr ?_) (Nat.le_of_lt shown)
          omega
      · have positive := scene.breaker.settings.recoveryMillis_pos
        omega
    · obtain ⟨_, back⟩ | ⟨_, recovered⟩ := found
      · exact absurd back same
      · simp only [Scene.read, heldUp, Breaker.timed_moved early same]
        have left : Sound settings now none
            (({ scene with heldUp := outer } : Scene).change scene.breaker []) := by
          have waited := sound.wait rising shown
          exact ⟨waited.configured, shown, waited.cells,
            .dated fun caller member => (others caller member).unchanged rising rfl rfl rfl,
            waited.placed, waited.serial⟩
        apply left.inquire now (readings + 1)
        intro _
        rw [sound.configured] at paid recovered
        calc (readings + 1) * settings.recoveryMillis
            = readings * settings.recoveryMillis + settings.recoveryMillis := Nat.succ_mul _ _
          _ ≤ openedAt + settings.recoveryMillis := Nat.add_le_add_right paid _
          _ ≤ scene.breaker.openedAt := recovered

private theorem Sound.read {now : Nat} (sound : Sound settings latest pending scene)
    (rising : latest ≤ now) (shown : now < lastMilli) :
    ∃ pending, Sound settings now pending (scene.read now) := by
  cases heldUp : scene.heldUp with
  | nil =>
    simp only [Scene.read, heldUp]
    exact ⟨pending, sound.wait rising shown⟩
  | cons caller outer =>
    cases caller with
    | opening opening place => exact ⟨none, sound.read_opening rising shown heldUp⟩
    | asking seen openedAt readings =>
      cases pending with
      | none => exact ⟨none, sound.read_dated rising shown heldUp⟩
      | some opening => exact ⟨some opening, sound.read_pending rising shown heldUp⟩

theorem Sound.step (sound : Sound settings latest pending scene) (turn : Turn)
    (rising : ∀ now, turn.reading? = some now → latest ≤ now ∧ now < lastMilli) :
    ∃ pending, Sound settings (turn.reading?.getD latest) pending (scene.step turn) := by
  cases turn with
  | ask =>
    cases pending with
    | none => exact ⟨none, sound.inquire 0 0 (by simp)⟩
    | some opening => exact ⟨some opening, sound.inquire_pending 0⟩
  | settle caller verdict => exact sound.settle caller verdict
  | read now =>
    obtain ⟨later, shown⟩ := rising now rfl
    exact sound.read later shown

theorem Sound.new (settings : BreakerSettings) : Sound settings 0 none (.new settings) where
  configured := rfl
  shown := by decide
  cells := ⟨fun _ => rfl, by simp [Scene.new, Breaker.new], by simp [Scene.new, Breaker.new]⟩
  layers := .dated (by simp [Scene.new])
  placed := by simp
  serial := fun _ _ _ => ⟨rfl, rfl⟩

theorem Sound.run (sound : Sound settings latest pending scene) (turns : List Turn)
    (rising : Turn.Rising turns)
    (after : ∀ now ∈ turns.filterMap Turn.reading?, latest ≤ now) :
    ∃ latest pending, Sound settings latest pending (scene.run turns) := by
  induction turns generalizing scene latest pending with
  | nil => exact ⟨latest, pending, sound⟩
  | cons turn rest ih =>
    obtain ⟨ordered, before⟩ := rising
    cases reads : turn.reading? with
    | none =>
      simp only [List.filterMap_cons, reads] at ordered before after
      obtain ⟨pending, stepped⟩ := sound.step turn (by simp [reads])
      simp only [reads, Option.getD_none] at stepped
      exact ih stepped ⟨ordered, before⟩ after
    | some now =>
      simp only [List.filterMap_cons, reads, List.pairwise_cons, List.forall_mem_cons]
        at ordered before after
      obtain ⟨pending, stepped⟩ := sound.step turn fun other same => by
        cases reads.symm.trans same
        exact ⟨after.1, before.1⟩
      simp only [reads, Option.getD_some] at stepped
      exact ih stepped ⟨ordered.2, before.2⟩ ordered.1

end Turns

end AdmissionControl
