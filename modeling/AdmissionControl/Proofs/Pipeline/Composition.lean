import AdmissionControl.Proofs.Pipeline.Agreement
import AdmissionControl.Proofs.Pipeline.Passing
import Mathlib.Logic.Relation
/-!
What an execution of a stack comes to, told without the request that carries it. The limiters are
asked one after the other, up to the first that refuses. If none does, the breaker is asked, and if
it does not refuse either, the handler runs and the breaker is told once how it ended. At last every
limiter that let the request through is told of its end. Whatever else happens meanwhile, this is
what becomes of every request that is sent through a stack and ends.
-/

namespace AdmissionControl

/-- What a breaker is told of a handler. Errors of admission say nothing about the handler, and a
handler that panics leaves nothing to judge. -/
def Outcome.judged (blames : String → Bool) : Outcome → Verdict
  | .success => .success
  | .failure (.inner error) => if blames error then .failure else .success
  | .failure _ | .panic => .none

private theorem Outcome.verdict_closure (outcome : Outcome) (circuit : Circuit) :
    outcome.verdict .closure circuit = outcome.judged circuit.blames := by
  cases outcome with
  | success => rfl
  | failure error => cases error <;> rfl
  | panic => rfl

/-- What an execution comes to: the limiters that were asked, those that let it through, the breaker
that was asked, how often the handler was called, and the outcome for the caller. -/
structure Course where
  asked : List (Ref Limiter)
  admitted : List (Ref Limiter)
  faced : Option (Ref Circuit)
  calls : Nat
  outcome : Outcome

/-- What a request holds at its handler: the permit, if there is a breaker, and what it has to tell
the limiters. -/
def Stack.atHandler (stack : Stack) (entry : Option (Ref Circuit × Permit)) : List Held :=
  (entry.toList.map fun (circuit, permit) => Held.permit circuit permit) ++
    stack.limiters.map Held.completion

/-- A request that is sent through closures, and whose handler comes to an outcome when it is told
what to do. -/
structure Request.ComesTo (operation : Outcome) (request : Request) : Prop where
  nested : request.nesting = .closure
  told : ∀ response, request.response = some response → response.outcome = operation

private theorem Request.ComesTo.congr {operation : Outcome} {request other : Request}
    (comes : request.ComesTo operation) (nesting : other.nesting = request.nesting)
    (response : other.response = request.response) : other.ComesTo operation :=
  ⟨nesting.trans comes.nested, fun told found => comes.told told (response.symm.trans found)⟩

private theorem Request.ComesTo.hold {operation : Outcome} {request : Request}
    (comes : request.ComesTo operation) (held : Held) : (request.hold held).ComesTo operation :=
  comes.congr (request.hold_nesting held) (request.hold_response held)

namespace World

def Untouched {α : Type u} (others : World → World → Prop) (see : World → α) : Prop :=
  ∀ world after, others world after → see after = see world

section Specification

variable (others : World → World → Prop)

/-- What happens beside an execution: other things, and it is noted how far requests have come. -/
def Beside : World → World → Prop :=
  Relation.ReflTransGen fun one other => one.Matches other ∨ others one other

variable (context : Context)

/-- A limiter decides about a request, and its decision is counted. Where its store takes its time,
other things happen before the store has answered. -/
inductive Decides (limiter : Ref Limiter) (world : World) : Decision → World → Prop where
  | atOnce {decision : Decision} {left : World}
    (asked : world.ask limiter context = (.decided decision, left)) :
    Decides limiter world decision (left.account limiter context decision)
  | afterwards {consultation : Consultation} {left later weighed : World} {answer : StoreAnswer}
    {decision : Decision} (asked : world.ask limiter context = (.waiting consultation, left))
    (meanwhile : Beside others left later)
    (answers : consultation.outcome? later.now = some answer)
    (weighs : later.answered limiter context answer = (decision, weighed)) :
    Decides limiter world decision (weighed.account limiter context decision)

inductive Admits (world : World) : List (Ref Limiter) → World → Prop where
  | begun {began : World} (before : Beside others world began) : Admits world [] began
  | next {passed : List (Ref Limiter)} {limiter : Ref Limiter} {middle left : World}
    (admits : Admits world passed middle)
    (grants : Decides others context limiter middle .granted left) :
    Admits world (passed ++ [limiter]) left

variable (stack : Stack)

/-- A request comes to its handler, with a permit if there is a breaker. -/
inductive Enters (world : World) : Option (Ref Circuit × Permit) → World → Prop where
  | freely {left : World} (unguarded : stack.breaker = none)
    (admits : Admits others context world stack.limiters left) : Enters world none left
  | withPermit {circuit : Ref Circuit} {permit : Permit} {middle left : World}
    (guarded : stack.breaker = some circuit)
    (admits : Admits others context world stack.limiters middle)
    (allows : middle.allow circuit = (.ok permit, left)) :
    Enters world (some (circuit, permit)) left

def settlePermit (operation : Outcome) : Option (Ref Circuit × Permit) → World → World
  | none, world => world
  | some (circuit, permit), world =>
    world.resolve circuit permit (operation.judged (world.circuits.get circuit).blames)

/-- What an execution comes to, up to the moment at which the limiters are told of its end. -/
inductive Composes (operation : Outcome) (world : World) : Course → World → Prop where
  | refused {passed behind : List (Ref Limiter)} {limiter : Ref Limiter} {middle left : World}
    {reason : Reason} {retryAfter : Option Duration}
    (split : stack.limiters = passed ++ limiter :: behind)
    (admits : Admits others context world passed middle)
    (refuses : Decides others context limiter middle (.refused reason retryAfter) left) :
    Composes operation world
      { asked := passed ++ [limiter], admitted := passed, faced := none, calls := 0
        outcome := .failure (.ofRefusal reason retryAfter) } left
  | shut {circuit : Ref Circuit} {refusal : CircuitOpen} {middle left : World}
    (guarded : stack.breaker = some circuit)
    (admits : Admits others context world stack.limiters middle)
    (refuses : middle.allow circuit = (.error refusal, left)) :
    Composes operation world
      { asked := stack.limiters, admitted := stack.limiters, faced := some circuit, calls := 0
        outcome := .failure (.circuitOpen refusal) } left
  | ran {entry : Option (Ref Circuit × Permit)} {middle left : World}
    (enters : Enters others context stack world entry middle)
    (runs : Beside others middle left) :
    Composes operation world
      { asked := stack.limiters, admitted := stack.limiters, faced := stack.breaker, calls := 1
        outcome := operation } (settlePermit operation entry left)

/-- A whole execution: it comes to what it comes to, and at its end each limiter is told of it as
often as it let the request through. `left` is the world before that. -/
structure Executes (operation : Outcome) (world : World) (course : Course) (left after : World) :
    Prop where
  composes : Composes others context stack operation world course left
  told : Beside others (course.admitted.foldl complete left) after

/-- How far a request has come that is sent through a stack, in a world in which other things have
happened since. -/
inductive Journey (operation : Outcome) (world : World) (request : Request) (now : World) :
    Prop where
  | fresh (phase : request.phase = .fresh)
    (ahead : request.ahead = Pipeline.stackStages context stack) (held : request.held = [])
    (before : Beside others world now)
  | consulting {passed behind : List (Ref Limiter)} {limiter : Ref Limiter} {middle left : World}
    {consultation : Consultation} (phase : request.phase = .consulting limiter context consultation)
    (split : stack.limiters = passed ++ limiter :: behind)
    (ahead : request.ahead = Pipeline.stackStages context { stack with limiters := behind })
    (held : request.held = passed.map Held.completion)
    (admits : Admits others context world passed middle)
    (asked : middle.ask limiter context = (.waiting consultation, left))
    (meanwhile : Beside others left now)
  | running {entry : Option (Ref Circuit × Permit)} {middle : World}
    (phase : request.phase = .handling ∨ ∃ moment, request.phase = .resting moment operation)
    (held : request.held = stack.atHandler entry)
    (enters : Enters others context stack world entry middle)
    (runs : Beside others middle now)
  | ended {course : Course} {left : World} (outcome : request.outcome? = some course.outcome)
    (calls : course.calls = request.called.toNat)
    (executes : Executes others context stack operation world course left now)

end Specification

variable {others : World → World → Prop} {context : Context} {stack : Stack} {operation : Outcome}
  {world now after : World} {request : Request}

namespace Beside

private theorem of_matches (same : now.Matches after) :
    Beside others now after := .single (.inl same)

private theorem of_others (happens : others now after) :
    Beside others now after := .single (.inr happens)

end Beside

private theorem giveBack_completions (verdict : Circuit → Verdict) (world : World)
    (limiters : List (Ref Limiter)) :
    world.giveBack verdict (limiters.map Held.completion) = limiters.foldl complete world := by
  induction limiters generalizing world with
  | nil => rfl
  | cons limiter rest ih => exact ih (world.complete limiter)

private theorem giveBack_atHandler (operation : Outcome) (stack : Stack)
    (entry : Option (Ref Circuit × Permit)) (world : World) :
    world.giveBack (operation.verdict .closure) (stack.atHandler entry) =
      stack.limiters.foldl complete (settlePermit operation entry world) := by
  rw [Stack.atHandler, giveBack_append, giveBack_completions]
  cases entry with
  | none => rfl
  | some entry =>
    have verdict := operation.verdict_closure (world.circuits.get entry.1)
    rw [settlePermit, ← verdict]
    rfl

namespace Journey

private theorem later (journey : Journey others context stack operation world request now)
    (meanwhile : Beside others now after) :
    Journey others context stack operation world request after := by
  cases journey with
  | fresh phase ahead held before => exact .fresh phase ahead held (before.trans meanwhile)
  | consulting phase split ahead held admits asked before =>
    exact .consulting phase split ahead held admits asked (before.trans meanwhile)
  | running phase held enters runs => exact .running phase held enters (runs.trans meanwhile)
  | ended outcome calls executes =>
    exact .ended outcome calls ⟨executes.composes, executes.told.trans meanwhile⟩

private theorem congr {other : Request}
    (journey : Journey others context stack operation world request now)
    (phase : request.phase = other.phase) (ahead : other.ahead = request.ahead)
    (held : other.held = request.held) :
    Journey others context stack operation world other now := by
  have outcome : other.outcome? = request.outcome? := by simp only [Request.outcome?, phase]
  have called : other.called = request.called := by simp only [Request.called, phase]
  cases journey with
  | fresh here rest none before =>
    exact .fresh (phase ▸ here) (ahead.trans rest) (held.trans none) before
  | consulting here split rest kept admits asked before =>
    exact .consulting (phase ▸ here) split (ahead.trans rest) (held.trans kept) admits asked before
  | running here kept enters runs => exact .running (phase ▸ here) (held.trans kept) enters runs
  | ended ends calls executes =>
    exact .ended (outcome.trans ends) (calls.trans (by rw [called])) executes

variable {entry : Option (Ref Circuit × Permit)} {middle : World}

private theorem conclude (comes : request.ComesTo operation)
    (held : request.held = stack.atHandler entry)
    (enters : Enters others context stack world entry middle) (runs : Beside others middle now) :
    Journey others context stack operation world (now.conclude request operation).1
      (now.conclude request operation).2 := by
  refine .ended rfl rfl ⟨.ran enters runs, ?_⟩
  rw [World.conclude, comes.nested, held, giveBack_atHandler]
  exact .refl

private theorem handle (comes : request.ComesTo operation)
    (held : request.held = stack.atHandler entry)
    (enters : Enters others context stack world entry middle) (runs : Beside others middle now) :
    Journey others context stack operation world (now.handle request).1
      (now.handle request).2 := by
  unfold World.handle
  split
  · exact .running (.inl rfl) held enters runs
  · next response found =>
    rw [comes.told response found]
    split
    · exact conclude comes held enters runs
    · exact .running (.inr ⟨_, rfl⟩) held enters runs

private theorem refuse {passed asked : List (Ref Limiter)} {faced : Option (Ref Circuit)}
    {left : World}
    {error : AdmissionError String} (held : request.held = passed.map Held.completion)
    (composes : Composes others context stack operation world
      { asked, admitted := passed, faced, calls := 0, outcome := .failure error } left) :
    Journey others context stack operation world (left.refuse request error).1
      (left.refuse request error).2 := by
  refine .ended rfl rfl ⟨composes, ?_⟩
  rw [World.refuse, held, giveBack_completions]
  exact .refl

private theorem guard (comes : request.ComesTo operation)
    (held : request.held = stack.limiters.map Held.completion)
    (admits : Admits others context world stack.limiters now) :
    Journey others context stack operation world
      (now.pass request (stack.breaker.toList.map Stage.breaker)).1
      (now.pass request (stack.breaker.toList.map Stage.breaker)).2 := by
  cases guarded : stack.breaker with
  | none =>
    have enters : Enters others context stack world none now := .freely guarded admits
    have holds : ({ request with ahead := [] } : Request).held = stack.atHandler none := held
    exact handle (comes.congr rfl rfl) holds enters .refl
  | some circuit =>
    simp only [Option.toList_some, List.map_cons, List.map_nil, World.pass]
    rcases allowed : now.allow circuit with ⟨refusal | permit, left⟩
    · exact refuse held (.shut guarded admits allowed)
    · have enters : Enters others context stack world (some (circuit, permit)) left :=
        .withPermit guarded admits allowed
      let last : Request := { request.hold (.permit circuit permit) with ahead := [] }
      have holds : last.held = stack.atHandler (some (circuit, permit)) := by
        simp only [last, Request.hold, comes.nested, held]
        rfl
      exact handle ((comes.hold _).congr rfl rfl) holds enters .refl

/-- A request that some limiters have let through goes on to those behind. -/
theorem pass {passed behind : List (Ref Limiter)} (comes : request.ComesTo operation)
    (split : stack.limiters = passed ++ behind)
    (held : request.held = passed.map Held.completion)
    (admits : Admits others context world passed now) :
    let reached := now.pass request
      (Pipeline.stackStages context { stack with limiters := behind })
    Journey others context stack operation world reached.1 reached.2 := by
  -- Each limiter that lets the request through moves from those behind to those passed.
  induction behind generalizing now request passed with
  | nil =>
    rw [List.append_nil] at split
    exact guard comes (split ▸ held) (split ▸ admits)
  | cons limiter behind ih =>
    simp only [Pipeline.stackStages, List.map_cons, List.cons_append, World.pass]
    rcases asked : now.ask limiter context with ⟨decision | consultation, left⟩
    · cases decision with
      | granted =>
        have onward : stack.limiters = (passed ++ [limiter]) ++ behind := by
          rw [split, List.append_assoc, List.singleton_append]
        have holds : (request.hold (.completion limiter)).held =
            (passed ++ [limiter]).map Held.completion := by
          simp only [Request.hold, comes.nested, held, List.map_append, List.map_cons, List.map_nil]
        exact ih (comes.hold _) onward holds (.next admits (.atOnce asked))
      | refused reason retryAfter => exact refuse held (.refused split admits (.atOnce asked))
    · exact .consulting rfl split rfl held admits asked .refl

private theorem of_fresh (journey : Journey others context stack operation world request now)
    (phase : request.phase = .fresh) :
    request.ahead = Pipeline.stackStages context stack ∧ request.held = [] ∧
      Beside others world now := by
  cases journey with
  | fresh _ ahead held before => exact ⟨ahead, held, before⟩
  | consulting other => cases phase.symm.trans other
  | running other => rcases other with other | ⟨_, other⟩ <;> cases phase.symm.trans other
  | ended outcome => simp [Request.outcome?, phase] at outcome

private theorem passOn {limiter : Ref Limiter} {seen : Context} {consultation : Consultation}
    {answer : StoreAnswer} (journey : Journey others context stack operation world request now)
    (comes : request.ComesTo operation)
    (phase : request.phase = .consulting limiter seen consultation)
    (answers : consultation.outcome? now.now = some answer) :
    Journey others context stack operation world (now.passOn request limiter seen answer).1
      (now.passOn request limiter seen answer).2 := by
  cases journey with
  | fresh other => cases phase.symm.trans other
  | running other => rcases other with other | ⟨_, other⟩ <;> cases phase.symm.trans other
  | ended outcome => simp [Request.outcome?, phase] at outcome
  | @consulting passed behind _ middle left _ here split ahead held admits asked meanwhile =>
    cases phase.symm.trans here
    simp only [World.passOn]
    rcases weighs : now.answered limiter context answer with
      ⟨granted | ⟨reason, retryAfter⟩, weighed⟩
    · have onward : stack.limiters = (passed ++ [limiter]) ++ behind := by
        rw [split, List.append_assoc, List.singleton_append]
      have holds : (request.hold (.completion limiter)).held =
          (passed ++ [limiter]).map Held.completion := by
        simp only [Request.hold, comes.nested, held, List.map_append, List.map_cons, List.map_nil]
      simp only [Decision.toExcept, ahead]
      exact pass (comes.hold _) onward holds
        (.next admits (.afterwards asked meanwhile answers weighs))
    · exact refuse held (.refused split admits (.afterwards asked meanwhile answers weighs))

private theorem of_called (journey : Journey others context stack operation world request now)
    (called : request.called = true) (unfinished : request.outcome? = none) :
    (request.phase = .handling ∨ ∃ moment, request.phase = .resting moment operation) ∧
      ∃ entry middle, request.held = stack.atHandler entry ∧
        Enters others context stack world entry middle ∧ Beside others middle now := by
  cases journey with
  | fresh phase => simp [Request.called, phase] at called
  | consulting phase => simp [Request.called, phase] at called
  | running phase held enters runs => exact ⟨phase, _, _, held, enters, runs⟩
  | ended outcome => cases unfinished.symm.trans outcome

end Journey

/-- On its way a request stays what it is and keeps what it was told. -/
theorem handle_told (world : World) (request : Request) :
    (world.handle request).1.nesting = request.nesting ∧
      (world.handle request).1.response = request.response := by
  unfold handle
  split
  · exact ⟨rfl, rfl⟩
  · split <;> exact ⟨rfl, rfl⟩

private theorem pass_told (world : World) (request : Request) (stages : List Stage) :
    (world.pass request stages).1.nesting = request.nesting ∧
      (world.pass request stages).1.response = request.response := by
  induction stages generalizing world request with
  | nil => exact handle_told world { request with ahead := [] }
  | cons stage rest ih =>
    cases stage with
    | limiter limiter context =>
      simp only [World.pass]
      rcases world.ask limiter context with ⟨⟨granted | ⟨reason, retryAfter⟩⟩ | consultation, left⟩
      · have onward := ih (left.account limiter context .granted)
          (request.hold (.completion limiter))
        rwa [Request.hold_nesting, Request.hold_response] at onward
      · exact ⟨rfl, rfl⟩
      · exact ⟨rfl, rfl⟩
    | breaker circuit =>
      simp only [World.pass]
      rcases world.allow circuit with ⟨refusal | permit, left⟩
      · exact ⟨rfl, rfl⟩
      · have onward := ih left (request.hold (.permit circuit permit))
        rwa [Request.hold_nesting, Request.hold_response] at onward

private theorem passOn_told (world : World) (request : Request) (limiter : Ref Limiter)
    (context : Context) (answer : StoreAnswer) :
    (world.passOn request limiter context answer).1.nesting = request.nesting ∧
      (world.passOn request limiter context answer).1.response = request.response := by
  simp only [World.passOn]
  rcases world.answered limiter context answer with ⟨granted | ⟨reason, retryAfter⟩, left⟩
  · have onward := pass_told (left.account limiter context .granted)
      (request.hold (.completion limiter)) request.ahead
    rwa [Request.hold_nesting, Request.hold_response] at onward
  · exact ⟨rfl, rfl⟩

section Lives

variable (others : World → World → Prop) (ref : Ref Request) (operation : Outcome)

inductive Own (world : World) : World → Prop where
  | start : Own world (world.start ref)
  | answer (delay : Nat) : Own world (world.answer ref { delay, outcome := operation })
  | wake : Own world (world.resume ref)

/-- How often a handler has been called while one world became the other. -/
def callsBetween (one other : World) : Nat :=
  if (one.requests.get ref).called then 0 else (other.requests.get ref).called.toNat

/-- What becomes of a request that is done whatever and as often as anybody likes, in any order and
with other things in between, and how often its handler is called. -/
inductive Life (world : World) : Nat → World → Prop where
  | ready : Life world 0 world
  | own {calls : Nat} {middle after : World} (life : Life world calls middle)
    (done : middle.Own ref operation after) :
    Life world (calls + callsBetween ref middle after) after
  | other {calls : Nat} {middle after : World} (life : Life world calls middle)
    (happens : others middle after) : Life world calls after

end Lives

variable {ref : Ref Request}

structure Travels (others : World → World → Prop) (context : Context) (stack : Stack)
    (operation : Outcome) (world : World) (ref : Ref Request) (now : World) : Prop where
  comes : (now.requests.get ref).ComesTo operation
  journey : Journey others context stack operation world (now.requests.get ref) now

namespace Travels

private theorem placed {reached : Request × World} (comes : reached.1.ComesTo operation)
    (journey : Journey others context stack operation world reached.1 reached.2) :
    Travels others context stack operation world ref (reached.2.place ref reached.1) := by
  obtain ⟨request, left⟩ := reached
  have row : (left.place ref request).requests.get ref = request := by
    rw [place_requests, Table.get_set_self]
  have same : left.Matches (left.place ref request) := (place_matches left ref request).symm
  constructor
  case comes => rwa [row]
  case journey =>
    rw [row]
    exact journey.later (.of_matches same)

private theorem noted (travels : Travels others context stack operation world ref now)
    (comes : request.ComesTo operation) (phase : (now.requests.get ref).phase = request.phase)
    (ahead : request.ahead = (now.requests.get ref).ahead)
    (held : request.held = (now.requests.get ref).held) :
    Travels others context stack operation world ref (now.setRequest ref request) := by
  have row : (now.setRequest ref request).requests.get ref = request := Table.get_set_self _ _ _
  have same : now.Matches (now.setRequest ref request) := rfl
  constructor
  case comes => rwa [row]
  case journey =>
    rw [row]
    exact (travels.journey.congr phase ahead held).later (.of_matches same)

private theorem start (travels : Travels others context stack operation world ref now) :
    Travels others context stack operation world ref (now.start ref) := by
  let request : Request := { now.requests.get ref with polled := true }
  have comes : request.ComesTo operation := travels.comes.congr rfl rfl
  obtain ⟨fresh, does⟩ | ⟨-, does⟩ := now.start_cases ref <;> rw [does]
  · obtain ⟨nesting, response⟩ := now.pass_told request request.ahead
    obtain ⟨ahead, held, before⟩ := travels.journey.of_fresh fresh
    have stages : request.ahead = Pipeline.stackStages context stack := ahead
    have empty : request.held = ([] : List (Ref Limiter)).map Held.completion := held
    have passed : Journey others context stack operation world
        (now.pass request (Pipeline.stackStages context stack)).1
        (now.pass request (Pipeline.stackStages context stack)).2 :=
      .pass comes rfl empty (.begun before)
    exact placed (comes.congr nesting response) (stages ▸ passed)
  · exact travels.noted comes rfl rfl rfl

private theorem answer (travels : Travels others context stack operation world ref now)
    (delay : Nat) :
    Travels others context stack operation world ref
      (now.answer ref { delay, outcome := operation }) := by
  let response : Response := { delay, outcome := operation }
  let request : Request := { now.requests.get ref with response := some response }
  have comes : request.ComesTo operation :=
    ⟨travels.comes.nested, fun other found => by cases found; rfl⟩
  obtain ⟨handling, does⟩ | ⟨-, does⟩ := now.answer_cases ref response <;> rw [does]
  · obtain ⟨nesting, told⟩ := now.handle_told request
    have phase : (now.requests.get ref).phase = .handling := handling
    obtain ⟨-, entry, middle, held, enters, runs⟩ := travels.journey.of_called
      (by rw [Request.called, phase]) (by rw [Request.outcome?, phase])
    exact placed (comes.congr nesting told) (.handle comes held enters runs)
  · exact travels.noted comes rfl rfl rfl

private theorem wake (travels : Travels others context stack operation world ref now) :
    Travels others context stack operation world ref (now.resume ref) := by
  have comes := travels.comes
  obtain ⟨limiter, seen, consultation, answer, consulting, answers, does⟩ |
    ⟨moment, outcome, resting, -, does⟩ | ⟨does, -⟩ := now.resume_cases ref <;> rw [does]
  · obtain ⟨nesting, response⟩ := now.passOn_told (now.requests.get ref) limiter seen answer
    exact placed (comes.congr nesting response) (travels.journey.passOn comes consulting answers)
  · obtain ⟨phase, entry, middle, held, enters, runs⟩ := travels.journey.of_called
      (by rw [Request.called, resting]) (by rw [Request.outcome?, resting])
    rcases phase with phase | ⟨_, phase⟩ <;> cases resting.symm.trans phase
    exact placed (comes.congr rfl rfl) (.conclude comes held enters runs)
  · exact travels

private theorem own (travels : Travels others context stack operation world ref now)
    (done : now.Own ref operation after) :
    Travels others context stack operation world ref after := by
  cases done with
  | start => exact travels.start
  | answer delay => exact travels.answer delay
  | wake => exact travels.wake

private theorem other (travels : Travels others context stack operation world ref now)
    (happens : others now after) (row : after.requests.get ref = now.requests.get ref) :
    Travels others context stack operation world ref after :=
  ⟨row ▸ travels.comes, row ▸ travels.journey.later (.of_others happens)⟩

end Travels

private theorem Own.called (done : now.Own ref operation after)
    (called : (now.requests.get ref).called = true) :
    (after.requests.get ref).called = true := by
  have placed (reached : Request × World) (called : reached.1.called = true) :
      ((reached.2.place ref reached.1).requests.get ref).called = true := by
    rwa [place_requests, Table.get_set_self]
  have noted (request : Request) (same : request.phase = (now.requests.get ref).phase) :
      ((now.setRequest ref request).requests.get ref).called = true := by
    rw [setRequest, Table.get_set_self, Request.called, same]
    exact called
  cases done with
  | start =>
    obtain ⟨fresh, -⟩ | ⟨-, does⟩ := now.start_cases ref
    · have phase : (now.requests.get ref).phase = .fresh := fresh
      simp [Request.called, phase] at called
    · rw [does]
      exact noted _ rfl
  | answer delay =>
    obtain ⟨-, does⟩ | ⟨-, does⟩ := now.answer_cases ref { delay, outcome := operation } <;>
      rw [does]
    · exact placed _ (handle_called _ _)
    · exact noted _ rfl
  | wake =>
    obtain ⟨_, _, _, _, consulting, -, -⟩ | ⟨_, _, -, -, does⟩ | ⟨does, -⟩ := now.resume_cases ref
    · simp [Request.called, consulting] at called
    · rw [does]
      exact placed _ rfl
    · rwa [does]

/-- A request that is sent through a stack begins its journey. -/
theorem Travels.submit (others : World → World → Prop) (context : Context) (stack : Stack)
    (operation : Outcome) (world : World) :
    let sent := world.submit (.stack stack) context
    Travels others context stack operation world sent.1 sent.2 := by
  intro sent
  have row : sent.2.requests.get sent.1 =
      { ahead := Pipeline.stackStages context stack } := Table.get_add_self _ _
  constructor
  case comes => rw [row]; exact ⟨rfl, nofun⟩
  case journey => rw [row]; exact .fresh rfl rfl rfl (.of_matches rfl)

namespace Life

variable {ready : World} {calls : Nat}

theorem travels (untouched : Untouched others (·.requests.get ref))
    (life : Life others ref operation ready calls after)
    (sent : Travels others context stack operation world ref ready) :
    Travels others context stack operation world ref after := by
  induction life with
  | ready => exact sent
  | own life done ih => exact ih.own done
  | other life happens ih => exact ih.other happens (untouched _ _ happens)

/-- A handler is called once, or it is not called. -/
theorem calls_eq (untouched : Untouched others (·.requests.get ref))
    (life : Life others ref operation ready calls after)
    (unsent : (ready.requests.get ref).called = false) :
    calls = (after.requests.get ref).called.toNat := by
  induction life with
  | ready => rw [unsent]; rfl
  | @own calls middle after life done ih =>
    rw [ih, callsBetween]
    cases called : (middle.requests.get ref).called with
    | true => rw [done.called called]; rfl
    | false => exact Nat.zero_add _
  | other life happens ih =>
    exact ih.trans (congrArg (Request.called · |>.toNat) (untouched _ _ happens).symm)

end Life

end World

end AdmissionControl
