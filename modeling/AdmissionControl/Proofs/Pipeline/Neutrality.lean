import AdmissionControl.Proofs.Breaker.Undisturbed
import AdmissionControl.Proofs.Pipeline.GivingBack
import AdmissionControl.Proofs.Pipeline.Still
import AdmissionControl.World.Building
/-!
A breaker around a limiter, and what a refusal by the limiter does to the breaker. In closure form
the limiter's error reaches the breaker as it is and says nothing about the handler. In layers it
reaches the breaker as an error of its handler, and the breaker counts it.
-/

namespace AdmissionControl

/-- Two breakers that callers cannot tell apart: those that are not half-open have no trials. -/
structure Breaker.Alike (one other : Breaker) : Prop where
  state : one.state = other.state
  failures : one.failures = other.failures
  openedAt : one.openedAt = other.openedAt
  trials : one.state = .halfOpen → one.trials = other.trials

/-- The verdict on a permit still counts: no change of state has come between. -/
def Breaker.Awaits (breaker : Breaker) : Permit → Prop
  | .ordinary => breaker.state = .closed
  | .trial round => breaker.word = ⟨.halfOpen, round⟩

namespace Breaker

variable {breaker : Breaker} {permit : Permit}

private theorem settle_awaits (awaits : breaker.Awaits permit) (now : Nat) :
    ¬ (breaker.settle permit .failure now).Alike (breaker.discard permit) := by
  intro alike
  cases permit with
  | ordinary =>
    by_cases below : breaker.failures + 1 < breaker.settings.failureThreshold
    · rw [settle_count awaits below] at alike
      exact absurd alike.failures (Nat.succ_ne_self _)
    · rw [settle_trip awaits below] at alike
      exact absurd alike.failures (Nat.succ_ne_self _)
  | trial round =>
    have current : breaker.word = ⟨.halfOpen, round⟩ := awaits
    rw [settle_reopen current] at alike
    have state := alike.state
    simp [discard, current, Breaker.state] at state

private theorem settle_past (past : ¬ breaker.Awaits permit) (now : Nat) :
    (breaker.settle permit .failure now).Alike (breaker.discard permit) := by
  cases permit with
  | ordinary =>
    rw [settle_late past]
    exact ⟨rfl, rfl, rfl, fun _ => rfl⟩
  | trial round =>
    have stale : breaker.word ≠ ⟨.halfOpen, round⟩ := past
    have kept : breaker.settle (.trial round) .failure now = breaker := by
      simp [settle, fail, stale]
    rw [kept]
    by_cases same : breaker.word.round = round
    · rw [discard, if_pos same]
      refine ⟨rfl, rfl, rfl, fun halfOpen => absurd ?_ stale⟩
      rw [← same, ← show breaker.word.state = .halfOpen from halfOpen]
    · rw [discard, if_neg same]
      exact ⟨rfl, rfl, rfl, fun _ => rfl⟩

end Breaker

/-- What a breaker that blames every error concludes from a limiter's refusal inside it. -/
def Nesting.onRefusal : Nesting → Verdict
  | .closure => .none
  | .layered => .failure

private theorem Nesting.verdict_refusal (nesting : Nesting) {circuit : Circuit}
    (strict : circuit.blameless = []) (reason : Reason) (retryAfter : Option Duration) :
    (Outcome.failure (.ofRefusal reason retryAfter)).verdict nesting circuit =
      nesting.onRefusal := by
  cases nesting with
  | closure => cases reason <;> rfl
  | layered =>
    have blamed (text : String) : circuit.blames text = true := by
      simp [Circuit.blames, strict]
    exact if_pos (blamed _)

namespace World

/-- A request has passed a breaker, and `inner` is to pass a limiter for it. In closure form that is
another request, made by the handler of `outer`; in layers it is the same one. -/
inductive Admitted (world : World) (circuit : Ref Circuit) (permit : Permit) :
    Nesting → Ref Request → Ref Request → Prop where
  | closure {outer inner : Ref Request} (apart : outer ≠ inner)
      (direct : (world.requests.get outer).nesting = .closure)
      (handling : (world.requests.get outer).phase = .handling)
      (holds : (world.requests.get outer).held = [.permit circuit permit])
      (empty : (world.requests.get inner).held = []) :
      Admitted world circuit permit .closure outer inner
  | layered {request : Ref Request}
      (wrapped : (world.requests.get request).nesting = .layered)
      (holds : (world.requests.get request).held = [.permit circuit permit]) :
      Admitted world circuit permit .layered request request

/-- A limiter turns a request away, at once or by the answer of its store. `left` is the world when
the limiter has decided, and `after` when the request has ended. -/
inductive TurnsAway (world : World) (ref : Ref Request) (reason : Reason)
    (retryAfter : Option Duration) : World → World → Prop where
  | atOnce {limiter : Ref Limiter} {context : Context} {rest : List Stage} {left : World}
      (fresh : (world.requests.get ref).phase = .fresh)
      (ahead : (world.requests.get ref).ahead = .limiter limiter context :: rest)
      (refused : world.ask limiter context = (.decided (.refused reason retryAfter), left)) :
      TurnsAway world ref reason retryAfter
        (left.account limiter context (.refused reason retryAfter)) (world.start ref)
  | afterwards {limiter : Ref Limiter} {context : Context} {consultation : Consultation}
      {answer : StoreAnswer} {left : World}
      (waits : (world.requests.get ref).phase = .consulting limiter context consultation)
      (reached : consultation.outcome? world.now = some answer)
      (refused : world.answered limiter context answer = (.refused reason retryAfter, left)) :
      TurnsAway world ref reason retryAfter
        (left.account limiter context (.refused reason retryAfter)) (world.resume ref)

/-- The handler of `outer` ends as `inner` has ended, if that is another request. -/
def report (world : World) (form : Nesting) (outer inner : Ref Request) : World :=
  match form, (world.requests.get inner).outcome? with
  | .closure, some outcome => world.answer outer { outcome }
  | _, _ => world

def send (world : World) (form : Nesting) (circuit : Ref Circuit) (limiter : Ref Limiter)
    (context : Context) : Ref Request × Ref Request × World :=
  match form with
  | .closure =>
    let (outer, world) := world.submit (.breaker circuit) context
    let (inner, world) := (world.start outer).submit (.limiter limiter) context
    (outer, inner, world)
  | .layered =>
    let (ref, world) :=
      world.submit (.service { layers := [.breaker circuit, .limiter limiter true] }) context
    (ref, ref, world)

variable {world left after : World} {ref outer inner : Ref Request} {reason : Reason}
  {retryAfter : Option Duration} {circuit : Ref Circuit} {permit : Permit} {form : Nesting}

/-- In closure form the handler of the request that the breaker let through makes another one. -/
theorem send_closure (allowed : world.allow circuit = (.ok permit, left)) (limiter : Ref Limiter)
    (context : Context) :
    let outer : Ref Request := ⟨world.requests.size⟩
    let inner : Ref Request := ⟨world.requests.size + 1⟩
    ∃ requests : Table Request,
      world.send .closure circuit limiter context =
        (outer, inner, left.note requests world.alarms) ∧
      requests.get outer =
        { nesting := .closure, ahead := [], held := [.permit circuit permit], phase := .handling
          polled := true } ∧
      requests.get inner = { nesting := .closure, ahead := [.limiter limiter context] } := by
  intro outer inner
  let waiting : Request := { nesting := .closure, ahead := [.breaker circuit] }
  let added := (world.requests.add waiting).2
  let admitted : Request :=
    { waiting with
      ahead := [], held := [.permit circuit permit], phase := .handling, polled := true }
  let facing : Request := { nesting := .closure, ahead := [.limiter limiter context] }
  have started : (world.note added world.alarms).start outer =
      (left.note added world.alarms).setRequest outer admitted := by
    have asked : (world.note added world.alarms).allow circuit =
        (.ok permit, left.note added world.alarms) := by
      rw [allow_note, allowed]
      rfl
    have found : (world.note added world.alarms).requests.get outer = waiting :=
      Table.get_add_self world.requests waiting
    simp only [start, found, waiting, pass, asked]
    rfl
  have size : (added.set outer admitted).size = world.requests.size + 1 := by
    have inside : outer.index < added.size := by
      rw [Table.size_add]
      exact Nat.lt_succ_self _
    rw [Table.size_set_of_lt inside, Table.size_add]
  refine ⟨((added.set outer admitted).add facing).2, ?_, ?_, ?_⟩
  · have reached := congrArg (fun world : World =>
      (outer, world.submit (.limiter limiter) context)) started
    simp only [inner, ← size]
    exact reached
  · have earlier : outer.index < (added.set outer admitted).size := by
      rw [size]
      exact Nat.lt_succ_self _
    rw [Table.get_add_of_lt _ _ earlier, Table.get_set_self]
  · simp only [inner, ← size]
    exact Table.get_add_self _ facing

/-- In layers the breaker is passed before there is a request. -/
theorem send_layered (allowed : world.allow circuit = (.ok permit, left)) (limiter : Ref Limiter)
    (context : Context) :
    let ref : Ref Request := ⟨left.requests.size⟩
    ∃ requests : Table Request,
      world.send .layered circuit limiter context =
        (ref, ref, left.note requests left.alarms) ∧
      requests.get ref =
        { nesting := .layered, ahead := [.limiter limiter context]
          held := [.permit circuit permit] } := by
  intro ref
  refine ⟨_, ?_, Table.get_add_self left.requests _⟩
  simp only [send, submit, prepare, Pipeline.nesting, Pipeline.unready?, Pipeline.stages,
    Pipeline.layerStages, List.map, allowed]
  rfl

/-- A request that the breaker lets through comes to the limiter. -/
theorem send_admitted (allowed : (world.allow circuit).1 = .ok permit) (limiter : Ref Limiter)
    (context : Context) :
    let (outer, inner, sent) := world.send form circuit limiter context
    sent.Admitted circuit permit form outer inner ∧
      (sent.requests.get inner).phase = .fresh ∧
      (sent.requests.get inner).ahead = [.limiter limiter context] := by
  obtain ⟨left, allowed⟩ : ∃ left, world.allow circuit = (.ok permit, left) :=
    ⟨_, Prod.ext allowed rfl⟩
  cases form with
  | closure =>
    obtain ⟨requests, reached, first, second⟩ := send_closure allowed limiter context
    have apart : (⟨world.requests.size⟩ : Ref Request) ≠ ⟨world.requests.size + 1⟩ :=
      fun same => Nat.succ_ne_self _ (congrArg Ref.index same).symm
    rw [reached]
    refine ⟨.closure apart ?_ ?_ ?_ ?_, ?_, ?_⟩
    all_goals simp only [note, first, second]
  | layered =>
    obtain ⟨requests, reached, row⟩ := send_layered allowed limiter context
    rw [reached]
    refine ⟨.layered ?_ ?_, ?_, ?_⟩
    all_goals simp only [note, row]

private theorem TurnsAway.still (turned : world.TurnsAway ref reason retryAfter left after) :
    world.Still left := by
  cases turned with
  | @atOnce limiter context _ _ _ _ refused =>
    have asked := Still.ask world limiter context
    rw [refused] at asked
    exact asked.trans (.account _ _ _ _)
  | @afterwards limiter context _ answer _ _ _ refused =>
    have answered := Still.answered world limiter context answer
    rw [refused] at answered
    exact answered.trans (.account _ _ _ _)

private theorem TurnsAway.ended (turned : world.TurnsAway ref reason retryAfter left after) :
    ∃ polled, after = (left.giveBack ((Outcome.failure (.ofRefusal reason retryAfter)).verdict
      (world.requests.get ref).nesting) (world.requests.get ref).held).setRequest ref
        { world.requests.get ref with
          ahead := [], held := [], phase := .failed (.ofRefusal reason retryAfter), polled } := by
  cases turned with
  | atOnce fresh ahead refused =>
    refine ⟨true, ?_⟩
    simp only [start, fresh, ahead, pass, refused]
    rfl
  | afterwards waits reached refused =>
    refine ⟨(world.requests.get ref).polled, ?_⟩
    simp only [resume, waits, reached, passOn, refused]
    rfl

/-- The breaker's permit comes back with the verdict of its form, and the caller gets the limiter's
error. -/
theorem Admitted.turned (admitted : world.Admitted circuit permit form outer inner)
    (strict : (world.circuits.get circuit).blameless = [])
    (turned : world.TurnsAway inner reason retryAfter left after) :
    (after.report form outer inner).Matches (left.resolve circuit permit form.onRefusal) ∧
      ((after.report form outer inner).requests.get outer).outcome? =
        some (.failure (.ofRefusal reason retryAfter)) := by
  have still := turned.still
  have strict' : (left.circuits.get circuit).blameless = [] := by rw [still.blameless, strict]
  obtain ⟨polled, ended⟩ := turned.ended
  cases admitted with
  | closure apart direct handling holds empty =>
    rw [empty] at ended
    obtain ⟨failed, phase, ended⟩ : ∃ failed : Request,
        failed.phase = .failed (.ofRefusal reason retryAfter) ∧
          after = left.setRequest inner failed := ⟨_, rfl, ended⟩
    have other : (left.setRequest inner failed).requests.get outer = world.requests.get outer := by
      rw [← still.requests, setRequest, Table.get_set, if_neg (Ne.symm apart)]
    have verdict := Nesting.verdict_refusal .closure strict' reason retryAfter
    have heard : after.report .closure outer inner =
        after.answer outer { outcome := .failure (.ofRefusal reason retryAfter) } := by
      simp [ended, report, setRequest, Request.outcome?, phase]
    rw [heard, ended, answer_handling _ _ (by rw [other, handling]), other, holds, direct]
    constructor
    · have seen : ((left.setRequest inner failed).circuits.get circuit) =
          left.circuits.get circuit := rfl
      simp only [giveBack, seen, verdict]
      rfl
    · simp [setRequest, Request.outcome?]
  | layered wrapped holds =>
    have verdict := Nesting.verdict_refusal .layered strict' reason retryAfter
    rw [holds, wrapped] at ended
    simp only [giveBack, verdict] at ended
    rw [ended]
    constructor
    · rfl
    · simp [report, setRequest, Request.outcome?]

/-- Who drops a request that has passed a breaker and nothing else returns the permit unused. -/
theorem Admitted.dropped (admitted : world.Admitted circuit permit form outer inner) :
    (world.drop outer).Matches (world.resolve circuit permit .none) := by
  have held : (world.requests.get outer).held = [.permit circuit permit] := by
    cases admitted with
    | closure _ _ _ holds _ => exact holds
    | layered _ holds => exact holds
  simp only [drop, held]
  rfl

private theorem Admitted.still (admitted : world.Admitted circuit permit form outer inner)
    (still : world.Still left) : left.Admitted circuit permit form outer inner := by
  have requests := still.requests
  cases admitted with
  | closure apart direct handling holds empty =>
    exact .closure apart (by rwa [requests]) (by rwa [requests]) (by rwa [requests])
      (by rwa [requests])
  | layered wrapped holds => exact .layered (by rwa [requests]) (by rwa [requests])

private theorem breaker_resolve (calm : world.interruptions = []) (circuit : Ref Circuit)
    (permit : Permit) (verdict : Verdict) :
    (world.resolve circuit permit verdict).breaker circuit =
      (world.breaker circuit).settle permit verdict
        (world.clocks.get (world.circuits.get circuit).clock).now :=
  (Leaves.resolve_undisturbed ⟨rfl, rfl, calm⟩ permit verdict).stands

/-- A limiter refuses a request for which a breaker around it, which blames its handler for every
error, has given a permit. In closure form all is as if the request had been dropped. In layers the
permit comes back with a failure: that is the same only where the verdict does not count any more,
because the breaker has changed its state since it gave the permit. -/
theorem refusal_neutral_iff (admitted : world.Admitted circuit permit form outer inner)
    (strict : (world.circuits.get circuit).blameless = [])
    (turned : world.TurnsAway inner reason retryAfter left after) :
    let ended := after.report form outer inner
    let dropped := left.drop outer
    (ended.requests.get outer).outcome? = some (.failure (.ofRefusal reason retryAfter)) ∧
      dropped.breaker circuit = (left.breaker circuit).discard permit ∧
      (form = .closure → ended.Matches dropped) ∧
      (form = .layered → ended.Matches (left.resolve circuit permit .failure)) ∧
      (world.interruptions = [] →
        ((ended.breaker circuit).Alike (dropped.breaker circuit) ↔
          form = .closure ∨ ¬ (left.breaker circuit).Awaits permit)) := by
  intro ended dropped
  have still := turned.still
  obtain ⟨resolved, outcome⟩ := admitted.turned strict turned
  have unused : dropped.Matches (left.resolve circuit permit .none) :=
    (admitted.still still).dropped
  have discarded : dropped.breaker circuit = (left.breaker circuit).discard permit := by
    rw [unused.breaker]
    simp [resolve, steps, resolveWithin, setBreaker, World.breaker, Table.get_modify]
  refine ⟨outcome, discarded, ?_, ?_, ?_⟩
  · intro direct
    subst direct
    exact resolved.trans unused.symm
  · intro wrapped
    subst wrapped
    exact resolved
  · intro calm
    have calm' : left.interruptions = [] :=
      List.eq_nil_of_length_eq_zero (Nat.le_zero.mp (by simpa [calm] using still.spent))
    rw [resolved.breaker, breaker_resolve calm', discarded]
    cases form with
    | closure =>
      simp only [Nesting.onRefusal, true_or, iff_true]
      exact ⟨rfl, rfl, rfl, fun _ => rfl⟩
    | layered =>
      simp only [Nesting.onRefusal, reduceCtorEq, false_or]
      constructor
      · intro alike awaits
        exact Breaker.settle_awaits awaits _ alike
      · intro past
        exact Breaker.settle_past past _

/-- A full limiter inside a breaker that opens at the first failure, in layers, and a request that
has passed the breaker. -/
def crowded : World :=
  let (circuit, world) := initial.buildBreaker (BreakerSettings.normalized 1 (.ofMillis 1000) 1)
  let (limiter, world) := world.addLimiter (.concurrency { threshold := 1, inFlight := 1 })
  (world.send .layered circuit limiter {}).2.2

/-- The refusal opens the breaker, which is closed and without failures after a drop. -/
theorem refusal_opens :
    let refused := crowded.start ⟨0⟩
    let dropped := crowded.drop ⟨0⟩
    (refused.requests.get ⟨0⟩).outcome? =
        some (.failure (.ofRefusal .concurrencyLimit none)) ∧
      ((refused.breaker ⟨0⟩).state = .opened ∧ (refused.breaker ⟨0⟩).failures = 1) ∧
      ((dropped.breaker ⟨0⟩).state = .closed ∧ (dropped.breaker ⟨0⟩).failures = 0) :=
  ⟨rfl, ⟨rfl, rfl⟩, ⟨rfl, rfl⟩⟩

theorem refusal_neutral_crowded :
    (crowded.Admitted ⟨0⟩ .ordinary .layered ⟨0⟩ ⟨0⟩ ∧
        (crowded.circuits.get ⟨0⟩).blameless = [] ∧
        crowded.TurnsAway ⟨0⟩ .concurrencyLimit none
          (crowded.account ⟨0⟩ {} (.refuse .concurrencyLimit)) (crowded.start ⟨0⟩)) ∧
      ¬ ((crowded.start ⟨0⟩).breaker ⟨0⟩).Alike
        (((crowded.account ⟨0⟩ {} (.refuse .concurrencyLimit)).drop ⟨0⟩).breaker ⟨0⟩) := by
  have admitted : crowded.Admitted ⟨0⟩ .ordinary .layered ⟨0⟩ ⟨0⟩ := .layered rfl rfl
  have turned : crowded.TurnsAway ⟨0⟩ .concurrencyLimit none
      (crowded.account ⟨0⟩ {} (.refuse .concurrencyLimit)) (crowded.start ⟨0⟩) :=
    .atOnce rfl rfl rfl
  refine ⟨⟨admitted, rfl, turned⟩, ?_⟩
  obtain ⟨_, _, _, _, neutral⟩ := refusal_neutral_iff admitted rfl turned
  intro alike
  rcases (neutral rfl).mp alike with direct | past
  · cases direct
  · exact past rfl

end World

end AdmissionControl
