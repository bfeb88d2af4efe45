import AdmissionControl.Proofs.Breaker.Serial
import Mathlib.Data.List.Nodup
/-!
The trials of a half-open breaker, and the rounds to which they belong. A permit has the number of
its round and nothing else, and that number stays in the breaker's word when the round is over, so
trials of a finished round may still come back at any time. Two facts keep them out of the rounds
that follow: an opening takes all slots back, and a round only begins in an open breaker.
-/

namespace AdmissionControl

namespace Breaker

/-- The breaker that a permit has come back to, before an opening has its timestamp. -/
def returned (breaker : Breaker) (permit : Permit) : Verdict → Breaker
  | .success => (breaker.succeed permit).1
  | .failure => (breaker.fail permit).1
  | .none => breaker.discard permit

inductive Returns (breaker after : Breaker) : Permit → Verdict → Prop where
  | counts {verdict : Verdict} (word : after.word = breaker.word)
    (trials : after.trials = breaker.trials) : Returns breaker after .ordinary verdict
  | trips (closed : breaker.word.state = .closed) (word : after.word = ⟨.opened, breaker.word.round⟩)
    (trials : after.trials = 0) : Returns breaker after .ordinary .failure
  | stale {round : Round} {verdict : Verdict} (ended : breaker.word ≠ ⟨.halfOpen, round⟩)
    (moot : verdict = .none → breaker.word.round ≠ round) (same : after = breaker) :
    Returns breaker after (.trial round) verdict
  | frees {round : Round} (word : after.word = breaker.word)
    (trials : after.trials = breaker.trials - 1) (current : breaker.word.round = round) :
    Returns breaker after (.trial round) .none
  | closes {round : Round} (current : breaker.word = ⟨.halfOpen, round⟩)
    (word : after.word = ⟨.closed, round⟩) : Returns breaker after (.trial round) .success
  | opens {round : Round} (current : breaker.word = ⟨.halfOpen, round⟩)
    (word : after.word = ⟨.opened, round⟩) (trials : after.trials = 0) :
    Returns breaker after (.trial round) .failure

private theorem returns (breaker : Breaker) (permit : Permit) (verdict : Verdict) :
    breaker.Returns (breaker.returned permit verdict) permit verdict := by
  cases permit with
  | ordinary =>
    by_cases closed : breaker.word.state = .closed
    · cases verdict with
      | none => exact .counts rfl rfl
      | success =>
        exact .counts (by simp [returned, succeed, closed]) (by simp [returned, succeed, closed])
      | failure =>
        by_cases below : breaker.failures + 1 < breaker.settings.failureThreshold
        · exact .counts (by simp [returned, fail, closed, below])
            (by simp [returned, fail, closed, below])
        · exact .trips closed (by simp [returned, fail, closed, below])
            (by simp [returned, fail, closed, below])
    · have same : breaker.returned .ordinary verdict = breaker := by
        cases verdict <;> simp [returned, succeed, fail, discard, closed]
      exact .counts (by rw [same]) (by rw [same])
  | trial round =>
    by_cases current : breaker.word = ⟨.halfOpen, round⟩
    · cases verdict with
      | none =>
        have here : breaker.word.round = round := by rw [current]
        exact .frees (by simp [returned, discard, here]) (by simp [returned, discard, here]) here
      | success => exact .closes current (by simp [returned, succeed, current])
      | failure =>
        exact .opens current (by simp [returned, fail, current]) (by simp [returned, fail, current])
    · cases verdict with
      | success => exact .stale current (by simp) (by simp [returned, succeed, current])
      | failure => exact .stale current (by simp) (by simp [returned, fail, current])
      | none =>
        by_cases here : breaker.word.round = round
        · exact .frees (by simp [returned, discard, here]) (by simp [returned, discard, here]) here
        · exact .stale current (fun _ => here) (by simp [returned, discard, here])

private theorem returned_settings (breaker : Breaker) (permit : Permit) (verdict : Verdict) :
    (breaker.returned permit verdict).settings = breaker.settings := by
  cases verdict with
  | none =>
    cases permit with
    | ordinary => rfl
    | trial round => simp only [returned, discard]; split <;> rfl
  | success => cases permit <;> (simp only [returned, succeed]; split <;> rfl)
  | failure =>
    cases permit with
    | trial round => simp only [returned, fail]; split <;> rfl
    | ordinary =>
      simp only [returned, fail]
      split
      · split <;> rfl
      · rfl

end Breaker

def HeldUp.SawOpen : HeldUp → Prop
  | asking seen _ _ => seen.state = .opened
  | opening .. => True

namespace Scene

/-- How many trials of a round have yet to come back. -/
def outstanding (scene : Scene) (round : Round) : Nat := scene.permits.count (some (.trial round))

/-- How many trials have yet to come back, whatever their rounds are. -/
def unresolved (scene : Scene) : Nat := scene.permits.countP (·.any Permit.isTrial)

/-- The round whose verdict a turn brings: a trial comes back with a verdict that changes the
breaker. -/
def decides (scene : Scene) : Turn → Option Round
  | .settle caller verdict =>
    match scene.permits[caller]?.join with
    | some (.trial round) =>
      if verdict = .none ∨ (scene.settle caller verdict).breaker = scene.breaker then none
      else some round
    | _ => none
  | _ => none

def decided (scene : Scene) : List Turn → List Round
  | [] => []
  | turn :: rest => (scene.decides turn).toList ++ (scene.step turn).decided rest

private theorem decided_concat (scene : Scene) (turns : List Turn) (turn : Turn) :
    scene.decided (turns ++ [turn]) =
      scene.decided turns ++ ((scene.run turns).decides turn).toList := by
  induction turns generalizing scene with
  | nil => simp [decided, run]
  | cons first rest ih =>
    rw [List.cons_append, decided, decided, ih, List.append_assoc]
    rfl

/-- The trials of a breaker are kept apart from those of all other rounds. -/
structure Exclusive (settings : BreakerSettings) (scene : Scene) : Prop where
  /-- Each slot that is taken in a half-open breaker is that of a trial of its round. -/
  counted : scene.breaker.word.state = .halfOpen →
    scene.breaker.trials = scene.outstanding scene.breaker.word.round ∧
      scene.breaker.trials ≤ settings.halfOpenMaxCalls
  /-- No trial is of a round to come. -/
  past : ∀ round, 0 < scene.outstanding round → round ≤ scene.breaker.word.round
  /-- A trial of an earlier round takes no slot and frees none, however it comes back. -/
  stale : ∀ caller round verdict, scene.permits[caller]? = some (some (.trial round)) →
    round < scene.breaker.word.round →
    (scene.settle caller verdict).breaker.trials = scene.breaker.trials
  /-- Nor does an ordinary permit, unless it opens a closed breaker, which takes all slots back. -/
  ordinary : ∀ caller verdict, scene.permits[caller]? = some (some .ordinary) →
    (scene.settle caller verdict).breaker.trials = scene.breaker.trials ∨
      scene.breaker.word.state = .closed ∧
        (scene.settle caller verdict).breaker.word.state = .opened ∧
        (scene.settle caller verdict).breaker.trials = 0
  /-- Nor does the caller who puts in the timestamp. -/
  stamped : ∀ opening place outer now, scene.heldUp = .opening opening place :: outer →
    (scene.read now).breaker.trials = scene.breaker.trials
  /-- A verdict takes effect only in the round of its trial. -/
  timely : ∀ turn round, scene.decides turn = some round → scene.breaker.word = ⟨.halfOpen, round⟩
  /-- Where there may be one trial at a time there is no second, of whatever round. -/
  single : settings.halfOpenMaxCalls = 1 → scene.unresolved ≤ 1

/-- What every turn keeps, as long as no two rounds have the same number. -/
structure Rounded (settings : BreakerSettings) (decided : List Round) (scene : Scene) : Prop where
  configured : scene.breaker.settings = settings
  begun : scene.breaker.word.round.val = scene.notices.count .halfOpened
  saw : ∀ caller ∈ scene.heldUp, caller.SawOpen
  past : ∀ round, 0 < scene.outstanding round → round ≤ scene.breaker.word.round
  counted : scene.breaker.word.state = .halfOpen →
    scene.breaker.trials = scene.outstanding scene.breaker.word.round ∧
      scene.breaker.trials ≤ settings.halfOpenMaxCalls
  emptied : scene.breaker.word.state = .opened → scene.breaker.trials = 0
  single : settings.halfOpenMaxCalls = 1 →
    ∀ round, 0 < scene.outstanding round → scene.breaker.word = ⟨.halfOpen, round⟩
  reached : ∀ round ∈ decided, round ≤ scene.breaker.word.round
  ended : ∀ round ∈ decided, scene.breaker.word ≠ ⟨.halfOpen, round⟩
  distinct : decided.Nodup

variable {settings : BreakerSettings} {decided : List Round} {scene after : Scene} {caller : Nat}
  {permit : Permit} {verdict : Verdict}

private theorem outstanding_answer (scene : Scene) (now : Nat) (answer : Except CircuitOpen Permit)
    (round : Round) :
    (scene.answer now answer).outstanding round =
      scene.outstanding round + if answer = .ok (.trial round) then 1 else 0 := by
  simp only [outstanding, Scene.answer, List.count_append, List.count_singleton]
  cases answer <;> simp [Except.toOption]

private theorem set_nobody (nobody : scene.permits[caller]?.join = none) :
    scene.permits.set caller none = scene.permits := by
  apply List.ext_getElem?
  intro other
  rw [List.getElem?_set]
  split
  · next same =>
    subst same
    cases held : scene.permits[caller]? with
    | none => simp [List.getElem?_eq_none_iff.mp held]
    | some permit? =>
      rw [held, Option.join_some] at nobody
      simp [(List.getElem?_eq_some_iff.mp held).1, nobody]
  · rfl

private theorem settle_nobody (nobody : scene.permits[caller]?.join = none) (verdict : Verdict) :
    (scene.settle caller verdict).breaker = scene.breaker ∧
      (scene.settle caller verdict).permits = scene.permits ∧
      (scene.settle caller verdict).heldUp = scene.heldUp ∧
      (scene.settle caller verdict).notices = scene.notices := by
  simp [settle, nobody, set_nobody nobody]

private theorem settle_held (held : scene.permits[caller]?.join = some permit) (verdict : Verdict) :
    (scene.settle caller verdict).breaker = scene.breaker.returned permit verdict ∧
      (scene.settle caller verdict).permits = scene.permits.set caller none ∧
      (∀ other ∈ (scene.settle caller verdict).heldUp, other ∈ scene.heldUp ∨ other.SawOpen) ∧
      ∃ notices, (scene.settle caller verdict).notices = scene.notices ++ notices ∧
        .halfOpened ∉ notices := by
  simp only [settle, held]
  cases verdict with
  | none => exact ⟨rfl, rfl, fun _ member => .inl member, [], rfl, List.not_mem_nil⟩
  | success =>
    refine ⟨rfl, rfl, fun _ member => .inl member, _, rfl, ?_⟩
    cases permit <;> (simp only; split <;> simp)
  | failure =>
    simp only [giveBack, Breaker.returned]
    split
    · exact ⟨rfl, rfl, fun _ member => .inl member, [], rfl, List.not_mem_nil⟩
    · refine ⟨rfl, rfl, ?_, [], rfl, List.not_mem_nil⟩
      intro other member
      rcases List.mem_cons.mp member with rfl | outer
      · exact .inr trivial
      · exact .inl outer

private theorem outstanding_settle (held : scene.permits[caller]?.join = some permit)
    (verdict : Verdict) (round : Round) :
    (scene.settle caller verdict).outstanding round =
      scene.outstanding round - if permit = .trial round then 1 else 0 := by
  have found : scene.permits[caller]? = some (some permit) := by
    simpa [Option.join_eq_some_iff] using held
  obtain ⟨inside, here⟩ := List.getElem?_eq_some_iff.mp found
  rw [outstanding, (settle_held held verdict).2.1, List.count_set inside, here]
  simp [outstanding]

private theorem Rounded.goesOn (rounded : Rounded settings decided scene)
    (configured : after.breaker.settings = settings)
    (round : after.breaker.word.round = scene.breaker.word.round)
    (notices : after.notices.count .halfOpened = scene.notices.count .halfOpened)
    (saw : ∀ caller ∈ after.heldUp, caller.SawOpen)
    (fewer : ∀ round, after.outstanding round ≤ scene.outstanding round)
    (counted : after.breaker.word.state = .halfOpen →
      after.breaker.trials = after.outstanding after.breaker.word.round ∧
        after.breaker.trials ≤ settings.halfOpenMaxCalls)
    (emptied : after.breaker.word.state = .opened → after.breaker.trials = 0)
    (single : settings.halfOpenMaxCalls = 1 →
      ∀ round, 0 < after.outstanding round → after.breaker.word = ⟨.halfOpen, round⟩)
    (ended : ∀ round ∈ decided, after.breaker.word ≠ ⟨.halfOpen, round⟩) :
    Rounded settings decided after where
  configured := configured
  begun := by rw [round, notices, rounded.begun]
  saw := saw
  past := by
    intro other some
    rw [round]
    exact rounded.past other (Nat.lt_of_lt_of_le some (fewer other))
  counted := counted
  emptied := emptied
  single := single
  reached := by simpa only [round] using rounded.reached
  ended := ended
  distinct := rounded.distinct

private theorem Rounded.unchanged (rounded : Rounded settings decided scene)
    (configured : after.breaker.settings = settings) (word : after.breaker.word = scene.breaker.word)
    (trials : after.breaker.trials = scene.breaker.trials)
    (notices : after.notices.count .halfOpened = scene.notices.count .halfOpened)
    (saw : ∀ caller ∈ after.heldUp, caller.SawOpen)
    (out : ∀ round, after.outstanding round = scene.outstanding round) :
    Rounded settings decided after := by
  apply rounded.goesOn configured (by rw [word]) notices saw fun round => Nat.le_of_eq (out round)
  case counted => simpa only [out, word, trials] using rounded.counted
  case emptied => simpa only [word, trials] using rounded.emptied
  case single => simpa only [out, word] using rounded.single
  case ended => simpa only [word] using rounded.ended

/-- A half-open breaker with a slot left lets one more trial of its round out. -/
theorem Rounded.trial (rounded : Rounded settings decided scene)
    (halfOpen : scene.breaker.word.state = .halfOpen)
    (free : scene.breaker.trials < settings.halfOpenMaxCalls)
    (configured : after.breaker.settings = settings) (word : after.breaker.word = scene.breaker.word)
    (trials : after.breaker.trials = scene.breaker.trials + 1)
    (notices : after.notices.count .halfOpened = scene.notices.count .halfOpened)
    (saw : ∀ caller ∈ after.heldUp, caller.SawOpen)
    (out : ∀ round, after.outstanding round =
      scene.outstanding round + if scene.breaker.word.round = round then 1 else 0) :
    Rounded settings decided after := by
  have either : ∀ round, 0 < after.outstanding round →
      0 < scene.outstanding round ∨ scene.breaker.word.round = round := by
    intro round some
    rw [out] at some
    by_cases own : scene.breaker.word.round = round
    · exact .inr own
    · exact .inl (by simpa [own] using some)
  constructor
  case configured => exact configured
  case begun => rw [word, notices, rounded.begun]
  case saw => exact saw
  case past =>
    intro round some
    rw [word]
    rcases either round some with earlier | own
    · exact rounded.past round earlier
    · exact Fin.le_of_eq own.symm
  case counted =>
    intro _
    obtain ⟨counted, -⟩ := rounded.counted halfOpen
    rw [trials, word, out, if_pos rfl, counted]
    exact ⟨rfl, counted ▸ free⟩
  case emptied =>
    intro opened
    rw [word, halfOpen] at opened
    cases opened
  case single =>
    intro one round some
    rw [word]
    rcases either round some with earlier | rfl
    · exact rounded.single one round earlier
    · rw [← halfOpen]
  case reached => simpa only [word] using rounded.reached
  case ended => simpa only [word] using rounded.ended
  case distinct => exact rounded.distinct

private theorem Rounded.inquire (rounded : Rounded settings decided scene) (now readings : Nat) :
    Rounded settings decided (scene.inquire now readings) := by
  cases state : scene.breaker.word.state with
  | closed =>
    simp only [Scene.inquire, Breaker.inquire_closed state]
    refine rounded.unchanged rounded.configured rfl rfl (by simp [Scene.answer, change])
      rounded.saw ?_
    intro round
    rw [outstanding_answer, if_neg (by simp)]
    rfl
  | opened =>
    simp only [Scene.inquire, Breaker.inquire_opened state]
    exact rounded.unchanged rounded.configured rfl rfl (by simp [change])
      (List.forall_mem_cons.mpr ⟨state, rounded.saw⟩) fun _ => rfl
  | halfOpen =>
    by_cases full : scene.breaker.settings.halfOpenMaxCalls ≤ scene.breaker.trials
    · simp only [Scene.inquire, Breaker.inquire_full state full]
      refine rounded.unchanged rounded.configured rfl rfl (by simp [Scene.answer, change])
        rounded.saw ?_
      intro round
      rw [outstanding_answer, if_neg (by simp)]
      rfl
    · have free : scene.breaker.trials < settings.halfOpenMaxCalls :=
        rounded.configured ▸ Nat.lt_of_not_le full
      simp only [Scene.inquire, Breaker.inquire_free state full]
      refine rounded.trial state free rounded.configured rfl rfl (by simp [Scene.answer, change])
        rounded.saw ?_
      intro round
      rw [outstanding_answer]
      simp only [Except.ok.injEq, Permit.trial.injEq]
      rfl

private theorem decides_ordinary (held : scene.permits[caller]?.join = some .ordinary)
    (verdict : Verdict) :
    scene.decides (.settle caller verdict) = none := by
  simp only [decides, held]

private theorem decides_trial {round : Round}
    (held : scene.permits[caller]?.join = some (.trial round)) (verdict : Verdict) :
    scene.decides (.settle caller verdict) =
      if verdict = .none ∨ (scene.settle caller verdict).breaker = scene.breaker then none
      else some round := by
  simp only [decides, held]

private theorem decides_current {turn : Turn} {round : Round}
    (decided : scene.decides turn = some round) :
    scene.breaker.word = ⟨.halfOpen, round⟩ := by
  cases turn with
  | ask => cases decided
  | read now => cases decided
  | settle caller verdict =>
    simp only [decides] at decided
    split at decided
    · next trial held =>
      split at decided
      · cases decided
      · next counts =>
        cases decided
        rw [not_or, (settle_held held verdict).1] at counts
        have returns := scene.breaker.returns (.trial round) verdict
        cases returns with
        | stale _ _ same => exact absurd same counts.2
        | frees _ _ _ => exact absurd rfl counts.1
        | closes current _ => exact current
        | opens current _ _ => exact current
    · cases decided

structure TakesBack (settings : BreakerSettings) (scene : Scene) (permit : Permit)
    (after : Scene) : Prop where
  configured : after.breaker.settings = settings
  notices : after.notices.count .halfOpened = scene.notices.count .halfOpened
  saw : ∀ caller ∈ after.heldUp, caller.SawOpen
  out : ∀ round, after.outstanding round =
    scene.outstanding round - if permit = .trial round then 1 else 0

private theorem TakesBack.fewer (back : TakesBack settings scene permit after) (round : Round) :
    after.outstanding round ≤ scene.outstanding round :=
  back.out round ▸ Nat.sub_le _ _

/-- Where there may be one trial at a time, it is still of the round that is on. -/
theorem TakesBack.single (back : TakesBack settings scene permit after)
    (rounded : Rounded settings decided scene) (one : settings.halfOpenMaxCalls = 1)
    (round : Round) (some : 0 < after.outstanding round) :
    scene.breaker.word = ⟨.halfOpen, round⟩ :=
  rounded.single one round (Nat.lt_of_lt_of_le some (back.fewer round))

private theorem Rounded.takesBack (rounded : Rounded settings decided scene)
    (held : scene.permits[caller]?.join = some permit) (verdict : Verdict) :
    TakesBack settings scene permit (scene.settle caller verdict) := by
  obtain ⟨breaker, -, heldUp, more, notices, none_begun⟩ := settle_held held verdict
  constructor
  case configured => rw [breaker, Breaker.returned_settings, rounded.configured]
  case notices =>
    rw [notices, List.count_append, List.count_eq_zero.mpr none_begun, Nat.add_zero]
  case saw => exact fun other member => (heldUp other member).elim (rounded.saw other) id
  case out => exact outstanding_settle held verdict

/-- A verdict ends the round of its trial, which has had none before. -/
theorem Rounded.ends {round : Round} {state : CircuitState}
    (rounded : Rounded settings decided scene)
    (back : TakesBack settings scene (.trial round) after)
    (current : scene.breaker.word = ⟨.halfOpen, round⟩)
    (word : after.breaker.word = ⟨state, round⟩) (left : state ≠ .halfOpen)
    (emptied : state = .opened → after.breaker.trials = 0) :
    Rounded settings (decided ++ [round]) after := by
  have past : ∀ other, after.breaker.word ≠ ⟨.halfOpen, other⟩ := by
    intro other same
    rw [word] at same
    exact left (congrArg Word.state same)
  have goesOn : Rounded settings decided after := by
    apply rounded.goesOn back.configured (by rw [word, current]) back.notices back.saw back.fewer
    case counted =>
      intro halfOpen
      rw [word] at halfOpen
      exact absurd halfOpen left
    case emptied =>
      intro opened
      rw [word] at opened
      exact emptied opened
    case single =>
      intro one other some
      obtain ⟨counted, few⟩ := rounded.counted (by rw [current])
      have same := back.single rounded one other some
      rw [current] at same counted
      cases same
      rw [back.out, if_pos rfl, ← counted] at some
      omega
    case ended => exact fun other _ => past other
  have fresh : round ∉ decided := fun member => rounded.ended round member current
  exact { goesOn with
    reached := by
      intro other member
      rcases List.mem_append.mp member with earlier | own
      · exact goesOn.reached other earlier
      · have here : after.breaker.word.round = round := congrArg Word.round word
        exact Fin.ge_of_eq (here.trans (List.mem_singleton.mp own).symm)
    ended := fun other _ => past other
    distinct := List.nodup_append.mpr ⟨rounded.distinct, List.nodup_singleton _, by
      intro one member other own same
      rw [same, List.mem_singleton.mp own] at member
      exact fresh member⟩ }

private theorem Rounded.trips (rounded : Rounded settings decided scene)
    (back : TakesBack settings scene .ordinary after)
    (closed : scene.breaker.word.state = .closed)
    (word : after.breaker.word = ⟨.opened, scene.breaker.word.round⟩)
    (trials : after.breaker.trials = 0) : Rounded settings decided after := by
  apply rounded.goesOn back.configured (by rw [word]) back.notices back.saw back.fewer
  case counted =>
    rw [word]
    intro halfOpen
    cases halfOpen
  case emptied => exact fun _ => trials
  case single =>
    intro one round some
    rw [back.single rounded one round some] at closed
    cases closed
  case ended =>
    rw [word]
    intro round member same
    cases same

private theorem Rounded.stale {round : Round} (rounded : Rounded settings decided scene)
    (back : TakesBack settings scene (.trial round) after)
    (overdue : scene.breaker.word ≠ ⟨.halfOpen, round⟩) (same : after.breaker = scene.breaker) :
    Rounded settings decided after := by
  apply rounded.goesOn back.configured (by rw [same]) back.notices back.saw back.fewer
  case counted =>
    rw [same]
    intro halfOpen
    have apart : ¬ Permit.trial round = .trial scene.breaker.word.round := by
      rintro ⟨⟩
      exact overdue (by rw [← halfOpen])
    rw [back.out, if_neg apart]
    exact rounded.counted halfOpen
  case emptied => exact same ▸ rounded.emptied
  case single => exact same ▸ back.single rounded
  case ended => exact same ▸ rounded.ended

private theorem Rounded.frees {round : Round} (rounded : Rounded settings decided scene)
    (back : TakesBack settings scene (.trial round) after)
    (word : after.breaker.word = scene.breaker.word)
    (trials : after.breaker.trials = scene.breaker.trials - 1)
    (current : scene.breaker.word.round = round) : Rounded settings decided after := by
  apply rounded.goesOn back.configured (by rw [word]) back.notices back.saw back.fewer
  case counted =>
    rw [word, trials, back.out, current, if_pos rfl]
    intro halfOpen
    obtain ⟨counted, few⟩ := rounded.counted halfOpen
    rw [current] at counted
    exact ⟨congrArg (· - 1) counted, Nat.le_trans (Nat.sub_le _ _) few⟩
  case emptied =>
    rw [word, trials]
    intro opened
    rw [rounded.emptied opened]
  case single => exact word ▸ back.single rounded
  case ended => exact word ▸ rounded.ended

private theorem Rounded.settle (rounded : Rounded settings decided scene) (caller : Nat)
    (verdict : Verdict) :
    Rounded settings (decided ++ (scene.decides (.settle caller verdict)).toList)
      (scene.settle caller verdict) := by
  cases held : scene.permits[caller]?.join with
  | none =>
    obtain ⟨breaker, permits, heldUp, notices⟩ := settle_nobody held verdict
    have nothing : scene.decides (.settle caller verdict) = none := by simp only [decides, held]
    rw [nothing, Option.toList_none, List.append_nil]
    exact rounded.unchanged (breaker ▸ rounded.configured) (by rw [breaker]) (by rw [breaker])
      (by rw [notices]) (heldUp ▸ rounded.saw) fun _ => by rw [outstanding, permits]; rfl
  | some permit =>
    have back := rounded.takesBack held verdict
    have returns := scene.breaker.returns permit verdict
    rw [← (settle_held held verdict).1] at returns
    have undecided : permit = .ordinary → scene.decides (.settle caller verdict) = none :=
      fun same => decides_ordinary (same ▸ held) verdict
    have decides : ∀ round, permit = .trial round → scene.decides (.settle caller verdict) = _ :=
      fun round same => decides_trial (same ▸ held) verdict
    generalize scene.settle caller verdict = after at *
    cases returns with
    | counts word trials =>
      rw [undecided rfl, Option.toList_none, List.append_nil]
      exact rounded.unchanged back.configured word trials back.notices back.saw back.out
    | trips closed word trials =>
      rw [undecided rfl, Option.toList_none, List.append_nil]
      exact rounded.trips back closed word trials
    | @stale round _ overdue moot same =>
      have idle : verdict = .none ∨ after.breaker = scene.breaker := .inr same
      rw [decides round rfl, if_pos idle, Option.toList_none, List.append_nil]
      exact rounded.stale back overdue same
    | frees word trials current =>
      rw [decides _ rfl, if_pos (.inl rfl), Option.toList_none, List.append_nil]
      exact rounded.frees back word trials current
    | closes current word =>
      have moved : after.breaker ≠ scene.breaker := fun same => by simp [same, current] at word
      rw [decides _ rfl, if_neg (by simp [moved])]
      exact rounded.ends back current word (by simp) (by simp)
    | opens current word trials =>
      have moved : after.breaker ≠ scene.breaker := fun same => by simp [same, current] at word
      rw [decides _ rfl, if_neg (by simp [moved])]
      exact rounded.ends back current word (by simp) fun _ => trials

private theorem Rounded.begins (rounded : Rounded settings decided scene)
    (opened : scene.breaker.word.state = .opened)
    (unwound : scene.notices.count .halfOpened + 1 < 0x4000000000000000) :
    Rounded settings decided (scene.change scene.breaker.beginRound [.halfOpened]) := by
  have next : scene.breaker.word.round.next.val = scene.breaker.word.round.val + 1 :=
    Nat.mod_eq_of_lt (rounded.begun ▸ unwound)
  have later : ∀ round ≤ scene.breaker.word.round, round < scene.breaker.word.round.next := by
    intro round earlier
    exact Fin.lt_def.mpr (next ▸ Nat.lt_succ_of_le earlier)
  have none_out : scene.outstanding scene.breaker.word.round.next = 0 := by
    apply Nat.eq_zero_of_not_pos
    intro some
    exact absurd (later _ (rounded.past _ some)) (Fin.lt_irrefl _)
  constructor
  case configured => exact rounded.configured
  case begun =>
    rw [change, List.count_append, ← rounded.begun]
    exact next
  case saw => exact rounded.saw
  case past => exact fun round some => Fin.le_of_lt (later round (rounded.past round some))
  case counted =>
    intro _
    have emptied : (scene.change scene.breaker.beginRound [.halfOpened]).breaker.trials = 0 :=
      rounded.emptied opened
    rw [emptied]
    exact ⟨none_out.symm, Nat.zero_le _⟩
  case emptied => exact fun opened => by cases opened
  case single =>
    intro one round some
    rw [rounded.single one round some] at opened
    cases opened
  case reached => exact fun round member => Fin.le_of_lt (later round (rounded.reached round member))
  case ended =>
    intro round member same
    have reached := later round (rounded.reached round member)
    rw [show round = scene.breaker.word.round.next from (congrArg Word.round same).symm] at reached
    exact Fin.lt_irrefl _ reached
  case distinct => exact rounded.distinct

private theorem inquire_notices (scene : Scene) (now readings : Nat) :
    scene.notices <+: (scene.inquire now readings).notices := by
  simp only [inquire]
  split <;> exact List.prefix_append _ _

private theorem read_notices (scene : Scene) (now : Nat) :
    scene.notices <+: (scene.read now).notices := by
  simp only [read]
  split
  · exact List.prefix_rfl
  · split
    · exact List.prefix_append _ _
    · generalize changed : change { scene with heldUp := _ } _ _ = resumed
      have grown : scene.notices <+: resumed.notices := changed ▸ List.prefix_append _ _
      exact grown.trans (resumed.inquire_notices _ _)
  · exact List.prefix_append _ _

theorem step_notices (scene : Scene) (turn : Turn) :
    scene.notices <+: (scene.step turn).notices := by
  cases turn with
  | ask => exact scene.inquire_notices 0 0
  | read now => exact scene.read_notices now
  | settle caller verdict =>
    cases held : scene.permits[caller]?.join with
    | none => exact (settle_nobody held verdict).2.2.2 ▸ List.prefix_rfl
    | some permit =>
      obtain ⟨-, -, -, more, notices, -⟩ := settle_held held verdict
      exact notices ▸ List.prefix_append _ _

private theorem Rounded.read (rounded : Rounded settings decided scene) (now : Nat)
    (unwound : (scene.read now).notices.count .halfOpened < 0x4000000000000000) :
    Rounded settings decided (scene.read now) := by
  cases heldUp : scene.heldUp with
  | nil => simpa only [Scene.read, heldUp] using rounded
  | cons caller outer =>
    have saw := rounded.saw
    rw [heldUp, List.forall_mem_cons] at saw
    have left : Rounded settings decided { scene with heldUp := outer } :=
      rounded.unchanged rounded.configured rfl rfl rfl saw.2 fun _ => rfl
    cases caller with
    | opening opening place =>
      obtain ⟨configured, word, trials, -⟩ := scene.breaker.stamp_keeps opening now
      simp only [Scene.read, heldUp]
      refine rounded.unchanged (configured.trans rounded.configured) word trials ?_ saw.2 fun _ => rfl
      cases opening <;> simp [change, Breaker.stamp]
    | asking seen openedAt readings =>
      by_cases early : now - openedAt < scene.breaker.settings.recoveryMillis
      · simp only [Scene.read, heldUp, Breaker.timed_early early]
        refine left.unchanged rounded.configured rfl rfl (by simp [Scene.answer, change]) saw.2 ?_
        intro round
        rw [outstanding_answer, if_neg (by simp)]
        rfl
      · by_cases same : scene.breaker.openedAt = openedAt
        · subst same
          by_cases found : scene.breaker.word = seen
          · subst found
            have begun := (inquire_notices
              (change { scene with heldUp := outer } scene.breaker.beginRound [.halfOpened]) now
              (readings + 1)).sublist.count_le .halfOpened
            simp only [Scene.read, heldUp, Breaker.timed_late early] at unwound ⊢
            refine (left.begins saw.1 ?_).inquire now (readings + 1)
            simp only [change, List.count_append] at begun
            exact Nat.lt_of_le_of_lt begun unwound
          · have cleared : scene.breaker.timed seen scene.breaker.openedAt now =
                ({ scene.breaker with openedAt := notOpen }, [], none) := by
              simp [Breaker.timed, early, found]
            simp only [Scene.read, heldUp, cleared]
            refine Rounded.inquire ?_ now (readings + 1)
            exact left.unchanged rounded.configured rfl rfl (by simp [change]) saw.2 fun _ => rfl
        · simp only [Scene.read, heldUp, Breaker.timed_moved early same]
          refine Rounded.inquire ?_ now (readings + 1)
          exact left.unchanged rounded.configured rfl rfl (by simp [change]) saw.2 fun _ => rfl

theorem Rounded.step (rounded : Rounded settings decided scene) (turn : Turn)
    (unwound : (scene.step turn).notices.count .halfOpened < 0x4000000000000000) :
    Rounded settings (decided ++ (scene.decides turn).toList) (scene.step turn) := by
  cases turn with
  | ask =>
    rw [show scene.decides .ask = none from rfl, Option.toList_none, List.append_nil]
    exact rounded.inquire 0 0
  | settle caller verdict => exact rounded.settle caller verdict
  | read now =>
    rw [show scene.decides (.read now) = none from rfl, Option.toList_none, List.append_nil]
    exact rounded.read now unwound

theorem Rounded.new (settings : BreakerSettings) : Rounded settings [] (Scene.new settings) where
  configured := rfl
  begun := rfl
  saw := nofun
  past := nofun
  counted := nofun
  emptied := nofun
  single := nofun
  reached := nofun
  ended := nofun
  distinct := List.nodup_nil

/-- A run as long as its rounds all have numbers of their own. -/
theorem run_rounded (settings : BreakerSettings) (turns : List Turn)
    (unwound : ((Scene.new settings).run turns).notices.count .halfOpened < 0x4000000000000000) :
    Rounded settings ((Scene.new settings).decided turns) ((Scene.new settings).run turns) := by
  induction turns using List.reverseRecOn with
  | nil => exact .new settings
  | append_singleton turns turn ih =>
    have stepped : (Scene.new settings).run (turns ++ [turn]) =
        ((Scene.new settings).run turns).step turn := List.foldl_concat _ _ _ _
    rw [stepped] at unwound ⊢
    have fewer := (((Scene.new settings).run turns).step_notices turn).sublist.count_le .halfOpened
    rw [decided_concat]
    exact (ih (Nat.lt_of_le_of_lt fewer unwound)).step turn unwound

/-- With one trial at a time, whoever is out is a trial of the round that runs. -/
theorem Rounded.unresolved_le (rounded : Rounded settings decided scene)
    (one : settings.halfOpenMaxCalls = 1) : scene.unresolved ≤ 1 := by
  have own : ∀ held ∈ scene.permits, held.any Permit.isTrial = true →
      scene.breaker.word.state = .halfOpen ∧ held = some (.trial scene.breaker.word.round) := by
    intro held member isTrial
    rcases held with _ | _ | round
    · cases isTrial
    · cases isTrial
    · rw [rounded.single one round (List.count_pos_iff.mpr member)]
      exact ⟨rfl, rfl⟩
  by_cases halfOpen : scene.breaker.word.state = .halfOpen
  · obtain ⟨counted, few⟩ := rounded.counted halfOpen
    rw [counted, one] at few
    refine Nat.le_trans (List.countP_mono_left fun held member isTrial => ?_) few
    simpa using (own held member isTrial).2
  · have none_out : scene.unresolved = 0 :=
      List.countP_eq_zero.mpr fun held member isTrial => halfOpen (own held member isTrial).1
    exact none_out ▸ Nat.zero_le 1

private theorem Rounded.exclusive (rounded : Rounded settings decided scene) :
    scene.Exclusive settings where
  counted := rounded.counted
  past := rounded.past
  stale := by
    intro caller round verdict held earlier
    have held : scene.permits[caller]?.join = some (.trial round) := by rw [held]; rfl
    have returns := scene.breaker.returns (.trial round) verdict
    rw [(settle_held held verdict).1]
    cases returns with
    | stale _ _ same => rw [same]
    | frees _ _ current => exact absurd (current ▸ earlier) (Fin.lt_irrefl _)
    | closes current _ =>
      rw [current] at earlier
      exact absurd earlier (Fin.lt_irrefl round)
    | opens current _ _ =>
      rw [current] at earlier
      exact absurd earlier (Fin.lt_irrefl round)
  ordinary := by
    intro caller verdict held
    have held : scene.permits[caller]?.join = some .ordinary := by rw [held]; rfl
    have returns := scene.breaker.returns .ordinary verdict
    rw [(settle_held held verdict).1]
    cases returns with
    | counts _ trials => exact .inl trials
    | trips closed word trials => exact .inr ⟨closed, by rw [word], trials⟩
  stamped := by
    intro opening place outer now heldUp
    simp only [Scene.read, heldUp]
    exact (scene.breaker.stamp_keeps opening now).2.2.1
  timely := fun turn round decided => decides_current decided
  single := rounded.unresolved_le

/-- However the callers of a breaker get in each other's way, its trials are kept apart by their
rounds, and of each round one verdict takes effect at most, as long as the rounds have numbers of
their own. -/
theorem run_exclusive (settings : BreakerSettings) (turns : List Turn)
    (unwound : ((Scene.new settings).run turns).notices.count .halfOpened < 0x4000000000000000) :
    ((Scene.new settings).run turns).Exclusive settings ∧
      ((Scene.new settings).decided turns).Nodup :=
  ⟨(run_rounded settings turns unwound).exclusive, (run_rounded settings turns unwound).distinct⟩

/-- Two trials of the first round are out. One closes the breaker, an ordinary failure opens it again,
and when the next round has a trial of its own the other one is dropped. -/
theorem run_exclusive_late :
    let settings : BreakerSettings := ⟨1, .ofMillis 10, 2⟩
    let turns : List Turn := [.ask, .ask, .settle 0 .failure, .read 0, .ask, .read 10, .ask,
      .settle 2 .success, .settle 1 .failure, .read 20, .ask, .read 30, .settle 3 .none]
    let scene := (Scene.new settings).run turns
    scene.notices.count .halfOpened < 0x4000000000000000 ∧ scene.Exclusive settings ∧
      ((Scene.new settings).decided turns).Nodup ∧ (Scene.new settings).decided turns = [1] ∧
      scene.breaker.word = ⟨.halfOpen, 2⟩ ∧ scene.breaker.trials = 1 ∧
      scene.permits = [none, none, none, none, some (.trial 2)] := by
  intro settings turns scene
  have unwound : scene.notices.count .halfOpened < 0x4000000000000000 := by decide
  obtain ⟨exclusive, distinct⟩ := run_exclusive settings turns unwound
  exact ⟨unwound, exclusive, distinct, by decide, by decide, by decide, by decide⟩

end Scene

end AdmissionControl
