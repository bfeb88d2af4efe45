import AdmissionControl.Proofs.Pipeline.Encounters
import AdmissionControl.Proofs.Pipeline.Passing
import AdmissionControl.World.Time
/-!
Every request is accounted for once. A request that is sent through a stack is turned away at one
of its stages or reaches its handler, in whatever order requests begin, wait and end. So the
requests are as many as the calls of handlers and the refusals that the counters have, and the log
tells of each refusal by a limiter once, in the order in which they happened.
-/

namespace AdmissionControl

/-- How far a request has come, for whoever counts requests. -/
inductive Standing where
  | ahead
  | awaiting (limiter : Ref Limiter)
  | turnedAway
  | invoked
  deriving DecidableEq

/-- A request that was dropped is one whose handler was called: in a run of a stack no other is. -/
def Phase.standing : Phase → Standing
  | .fresh => .ahead
  | .consulting limiter _ _ => .awaiting limiter
  | .failed _ => .turnedAway
  | .handling | .resting .. | .answered _ | .dropped => .invoked

namespace Standing

/-- It is not known yet whether the handler will be called. -/
def pending : Standing → Bool
  | ahead | awaiting _ => true
  | turnedAway | invoked => false

def awaits (kinds : Ref Limiter → Kind) (kind : Kind) : Standing → Bool
  | awaiting limiter => kinds limiter = kind
  | _ => false

def handled (standing : Standing) : Bool := standing = invoked

inductive Meets (kinds : Ref Limiter → Kind) : Standing → Encounter → Standing → Prop where
  | consulted (limiter : Ref Limiter) :
    Meets kinds .ahead (.consulted (kinds limiter)) (.awaiting limiter)
  | granted (limiter : Ref Limiter) (key : Option String) :
    Meets kinds (.awaiting limiter) (.decided (kinds limiter) key .granted) .ahead
  | refused (limiter : Ref Limiter) (key : Option String) (reason : Reason)
    (retryAfter : Option Duration) :
    Meets kinds (.awaiting limiter) (.decided (kinds limiter) key (.refused reason retryAfter))
      .turnedAway
  | shut : Meets kinds .ahead .shut .turnedAway
  | called : Meets kinds .ahead .called .invoked

inductive Path (kinds : Ref Limiter → Kind) : Standing → List Encounter → Standing → Prop where
  | here (standing : Standing) : Path kinds standing [] standing
  | next {first second last : Standing} {encounter : Encounter} {trace : List Encounter}
    (meets : Meets kinds first encounter second) (rest : Path kinds second trace last) :
    Path kinds first (encounter :: trace) last

variable {kinds : Ref Limiter → Kind} {before after : Standing} {trace : List Encounter}

private theorem pending_of_awaits {kind : Kind} (standing : Standing)
    (awaited : standing.awaits kinds kind = true) : standing.pending = true := by
  cases standing with
  | awaiting limiter => rfl
  | _ => cases awaited

/-- Whoever is on the way comes to an end of it once, or is on the way still. -/
theorem Path.ends (path : Path kinds before trace after) :
    trace.countP Encounter.ends + after.pending.toNat = before.pending.toNat := by
  induction path with
  | here => exact Nat.zero_add _
  | next meets rest ih =>
    rw [List.countP_cons, Nat.add_right_comm, ih]
    cases meets <;> rfl

/-- Who is consulted decides, unless the decision is still awaited. -/
theorem Path.decides (path : Path kinds before trace after) (kind : Kind) :
    (before.awaits kinds kind).toNat + trace.count (.consulted kind) =
      trace.countP (Encounter.decides kind) + (after.awaits kinds kind).toNat := by
  induction path with
  | here => exact Nat.add_comm _ _
  | next meets rest ih =>
    rw [List.count_cons, List.countP_cons, Nat.add_right_comm, ← ih]
    cases meets with
    | consulted limiter =>
      by_cases same : kinds limiter = kind <;>
        simp [awaits, Encounter.decides, same, Nat.add_comm]
    | granted limiter | refused limiter =>
      by_cases same : kinds limiter = kind <;>
        simp [awaits, Encounter.decides, same, Nat.add_comm]
    | _ => rfl

private theorem Path.calls (path : Path kinds before trace after) :
    before.handled.toNat + trace.count .called = after.handled.toNat := by
  induction path with
  | here => rfl
  | next meets rest ih =>
    rw [← ih, List.count_cons, Nat.add_left_comm, Nat.add_comm]
    cases meets <;> rfl

end Standing

def Kind.total (count : Kind → Nat) : Nat := all.foldl (fun total kind => total + count kind) 0

namespace Encounter

def refuses (kind : Kind) : Encounter → Bool
  | decided other _ (.refused ..) => other = kind
  | _ => false

private theorem countP_refuses (trace : List Encounter) (kind : Kind) :
    trace.countP (refuses kind) = trace.countP (rejects kind) + trace.countP (abandons kind) := by
  induction trace with
  | nil => rfl
  | cons encounter rest ih =>
    simp only [List.countP_cons, ih]
    rcases encounter with _ | ⟨other, key, _ | ⟨reason, retryAfter⟩⟩ | _ | _
    case decided.refused =>
      by_cases same : other = kind
      · cases reason <;> simp [refuses, rejects, abandons, same, Nat.add_assoc, Nat.add_comm 1]
      · simp [refuses, rejects, abandons, same]
    all_goals rfl

private theorem countP_decides (trace : List Encounter) (kind : Kind) :
    trace.countP (decides kind) = trace.countP (grants kind) + trace.countP (refuses kind) := by
  induction trace with
  | nil => rfl
  | cons encounter rest ih =>
    simp only [List.countP_cons, ih]
    rcases encounter with _ | ⟨other, key, _ | ⟨reason, retryAfter⟩⟩ | _ | _
    case decided.granted => exact Nat.add_right_comm _ _ _
    case decided.refused => exact Nat.add_assoc _ _ _
    all_goals rfl

private theorem countP_ends (trace : List Encounter) :
    trace.countP ends = trace.count .called +
      ((Kind.total fun kind => trace.countP (refuses kind)) + trace.count .shut) := by
  induction trace with
  | nil => rfl
  | cons encounter rest ih =>
    simp only [Kind.total, Kind.all, List.foldl_cons, List.foldl_nil, List.countP_cons,
      List.count_cons, ih]
    rcases encounter with _ | ⟨other, key, _ | ⟨reason, retryAfter⟩⟩ | _ | _
    case decided.refused => cases other <;> (simp [refuses, ends]; omega)
    case shut => simp [refuses, ends]; omega
    case called => simp [refuses, ends]; omega
    all_goals rfl

end Encounter

def KindCounts.decided (counts : KindCounts) : Nat :=
  counts.granted + counts.rejected + counts.abandoned

def Metrics.turnedAway (metrics : Metrics) : Nat :=
  (Kind.total fun kind => (metrics.ofKind kind).rejected + (metrics.ofKind kind).abandoned) +
    metrics.breaker.rejected

namespace World

/-- How many requests have come so far. -/
def census (world : World) (test : Standing → Bool) : Nat :=
  world.requests.entries.countP (test ·.phase.standing)

/-- What a request meets with that is started. -/
def startEncounters (world : World) (ref : Ref Request) : List Encounter :=
  let request := world.requests.get ref
  match request.phase with
  | .fresh => world.encounters request.ahead
  | _ => []

def resumeEncounters (world : World) (ref : Ref Request) : List Encounter :=
  let request := world.requests.get ref
  match request.phase with
  | .consulting limiter context consultation =>
    match consultation.outcome? world.now with
    | none => []
    | some answer => world.encountersOn limiter context answer request.ahead
  | _ => []

end World

namespace Stack

/-- What may happen next where requests are sent through a stack, and what is met with then. They
are made ready, started, answered by their handlers and woken at any time and in any order, and
they are dropped when their handlers were called. Elsewhere anything may happen that is neither
counted nor a refusal. -/
inductive Step (stack : Stack) (world : World) : List Encounter → World → Prop where
  | submit (context : Context) : Step stack world [] (world.submit (.stack stack) context).2
  | start {ref : Ref Request} (inside : ref.index < world.requests.size) :
    Step stack world (world.startEncounters ref) (world.start ref)
  | answer {ref : Ref Request} (inside : ref.index < world.requests.size) (response : Response) :
    Step stack world [] (world.answer ref response)
  | wake (ref : Ref Request) : Step stack world (world.resumeEncounters ref) (world.resume ref)
  | drop {ref : Ref Request} (inside : ref.index < world.requests.size)
    (called : (world.requests.get ref).called = true) : Step stack world [] (world.drop ref)
  | elsewhere {after : World} (requests : after.requests = world.requests)
    (metrics : after.metrics = world.metrics) (log : after.rejections = world.rejections)
    (kinds : ∀ ref, (after.limiters.get ref).kind = (world.limiters.get ref).kind)
    (calm : after.interruptions = world.interruptions) : Step stack world [] after

inductive Run (stack : Stack) (world : World) : List Encounter → World → Prop where
  | refl : Run stack world [] world
  | tail {trace more : List Encounter} {middle after : World} (run : Run stack world trace middle)
    (step : Step stack middle more after) : Run stack world (trace ++ more) after

end Stack

variable {kinds : Ref Limiter → Kind} {trace more : List Encounter} {world after : World}
  {ref : Ref Request}

private theorem Request.standing_of_called {request : Request} (called : request.called = true) :
    request.phase.standing = .invoked := by
  unfold Request.called at called
  cases phase : request.phase <;> simp_all [Phase.standing]

namespace World

private theorem handle_standing (world : World) (request : Request) :
    (world.handle request).1.phase.standing = .invoked :=
  Request.standing_of_called (world.handle_called request)

/-- Whatever the stages are, a request meets with them in one of the ways in which requests do. -/
theorem pass_path (calm : world.interruptions = [])
    (same : ∀ ref, (world.limiters.get ref).kind = kinds ref) (request : Request)
    (stages : List Stage) :
    Standing.Path kinds .ahead (world.encounters stages)
      (world.pass request stages).1.phase.standing := by
  induction stages generalizing world request with
  | nil =>
    rw [pass, handle_standing]
    exact .next .called (.here _)
  | cons stage rest ih =>
    cases stage with
    | limiter ref context =>
      have asked := Tallies.ask calm ref context
      simp only [World.pass, World.encounters, same]
      generalize world.ask ref context = reply at asked
      obtain ⟨answer, left⟩ := reply
      cases answer with
      | waiting consultation => exact .next (.consulted ref) (.here _)
      | decided decision =>
        refine .next (.consulted ref) ?_
        have accounted := Tallies.account asked.calm ref context decision
        cases decision with
        | granted =>
          exact .next (.granted ref _) (ih accounted.calm (accounted.keeps (asked.keeps same)) _)
        | refused reason retryAfter => exact .next (.refused ref _ _ _) (.here _)
    | breaker ref =>
      have allowed := Tallies.allow calm ref
      simp only [World.pass, World.encounters]
      generalize world.allow ref = reply at allowed
      obtain ⟨answer, left⟩ := reply
      cases answer with
      | ok permit => exact ih allowed.calm (allowed.keeps same) _
      | error refusal => exact .next .shut (.here _)

private theorem passOn_path (calm : world.interruptions = [])
    (same : ∀ ref, (world.limiters.get ref).kind = kinds ref) (request : Request)
    (ref : Ref Limiter) (context : Context) (answer : StoreAnswer) :
    Standing.Path kinds (.awaiting ref) (world.encountersOn ref context answer request.ahead)
      (world.passOn request ref context answer).1.phase.standing := by
  have weighed := Tallies.answered calm ref context answer
  simp only [World.passOn, World.encountersOn, same]
  generalize world.answered ref context answer = judged at weighed
  obtain ⟨decision, left⟩ := judged
  have accounted := Tallies.account weighed.calm ref context decision
  cases decision with
  | granted =>
    have kept := accounted.keeps (weighed.keeps same)
    exact .next (.granted ref _) (pass_path accounted.calm kept _ _)
  | refused reason retryAfter => exact .next (.refused ref _ _ _) (.here _)

/-- What requests have met with tells how far they have come. -/
structure Accounts (kinds : Ref Limiter → Kind) (trace : List Encounter) (world : World) :
    Prop where
  ends : trace.countP Encounter.ends + world.census Standing.pending = world.requests.size
  decides : ∀ kind, trace.count (.consulted kind) =
    trace.countP (Encounter.decides kind) + world.census (Standing.awaits kinds kind)
  calls : trace.count .called = world.census Standing.handled

namespace Accounts

private theorem of_same (accounts : world.Accounts kinds trace)
    (requests : after.requests = world.requests) : after.Accounts kinds trace := by
  have same (test : Standing → Bool) : after.census test = world.census test := by
    rw [World.census, requests, World.census]
  constructor
  case ends => rw [same, requests, accounts.ends]
  case decides => exact fun kind => same _ ▸ accounts.decides kind
  case calls => exact same _ ▸ accounts.calls

private theorem move (accounts : world.Accounts kinds trace)
    (inside : ref.index < world.requests.size) {request : Request}
    (path : Standing.Path kinds (world.requests.get ref).phase.standing more request.phase.standing)
    (rows : after.requests = world.requests.set ref request) :
    after.Accounts kinds (trace ++ more) := by
  have census (test : Standing → Bool) :
      after.census test + (test (world.requests.get ref).phase.standing).toNat =
        world.census test + (test request.phase.standing).toNat := by
    rw [World.census, rows]
    exact Table.countP_set inside (test ·.phase.standing) request
  constructor
  case ends =>
    have ends := path.ends
    have before := accounts.ends
    have pending := census Standing.pending
    rw [List.countP_append, rows, Table.size_set_of_lt inside]
    omega
  case decides =>
    intro kind
    have decides := path.decides kind
    have before := accounts.decides kind
    have awaiting := census (Standing.awaits kinds kind)
    rw [List.count_append, List.countP_append]
    omega
  case calls =>
    have calls := path.calls
    have before := accounts.calls
    have handled := census Standing.handled
    rw [List.count_append]
    omega

private theorem add (accounts : world.Accounts kinds trace) {request : Request}
    (ahead : request.phase.standing = .ahead)
    (rows : after.requests = (world.requests.add request).2) : after.Accounts kinds trace := by
  have census (test : Standing → Bool) :
      after.census test = world.census test + (test .ahead).toNat := by
    rw [World.census, rows, Table.add, Array.countP_push, ahead]
    cases test .ahead <;> rfl
  constructor
  case ends =>
    rw [census, rows, Table.size_add, ← accounts.ends]
    rfl
  case decides =>
    intro kind
    rw [census]
    exact accounts.decides kind
  case calls =>
    rw [census]
    exact accounts.calls

end Accounts

/-- A request has come further, and the counters and the log say so. -/
structure Moves (kinds : Ref Limiter → Kind) (ref : Ref Request) (trace : List Encounter)
    (world after : World) : Prop where
  tallies : Tallies trace world after
  further : ∃ request, after.requests = world.requests.set ref request ∧
    Standing.Path kinds (world.requests.get ref).phase.standing trace request.phase.standing

namespace Moves

private theorem noted (calm : world.interruptions = []) {request : Request}
    (same : request.phase.standing = (world.requests.get ref).phase.standing) :
    Moves kinds ref [] world (world.setRequest ref request) where
  tallies := .of_same calm (fun _ => rfl) rfl rfl
  further := ⟨request, rfl, same ▸ .here _⟩

private theorem placed {reached : Request × World} (tallies : Tallies trace world reached.2)
    (still : world.Still reached.2)
    (path : Standing.Path kinds (world.requests.get ref).phase.standing trace
      reached.1.phase.standing) :
    Moves kinds ref trace world (reached.2.place ref reached.1) := by
  obtain ⟨request, left⟩ := reached
  have uncounted : Tallies [] left (left.place ref request) := by
    unfold World.place
    cases request.wake? <;> exact .of_same tallies.calm (fun _ => rfl) rfl rfl
  constructor
  case tallies => exact List.append_nil trace ▸ tallies.trans uncounted
  case further => exact ⟨request, by rw [place_requests, still.requests], path⟩

end Moves

private theorem start_moves (calm : world.interruptions = [])
    (same : ∀ limiter, (world.limiters.get limiter).kind = kinds limiter) (ref : Ref Request) :
    Moves kinds ref (world.startEncounters ref) world (world.start ref) := by
  cases phase : (world.requests.get ref).phase with
  | fresh =>
    simp only [World.start, World.startEncounters, phase]
    refine .placed (.pass calm _ _) (Still.accompanies.pass _ _ _) ?_
    rw [phase]
    exact pass_path calm same _ _
  | _ =>
    simp only [World.start, World.startEncounters, phase]
    exact .noted calm (by rw [phase])

private theorem answer_moves (calm : world.interruptions = []) (ref : Ref Request)
    (response : Response) :
    Moves kinds ref [] world (world.answer ref response) := by
  cases phase : (world.requests.get ref).phase with
  | handling =>
    simp only [World.answer, phase]
    refine .placed (Tallies.endures.handle _ _ calm) (Still.accompanies.handle _ _) ?_
    rw [phase, handle_standing]
    exact .here _
  | _ =>
    simp only [World.answer, phase]
    exact .noted calm (by rw [phase])

private theorem drop_moves (calm : world.interruptions = [])
    (called : (world.requests.get ref).called = true) :
    Moves kinds ref [] world (world.drop ref) := by
  let dropped : Request :=
    { world.requests.get ref with ahead := [], held := [], phase := .dropped }
  have uncounted : Tallies [] world (world.setRequest ref dropped) :=
    .of_same calm (fun _ => rfl) rfl rfl
  constructor
  case tallies => exact uncounted.trans (Tallies.endures.giveBack _ _ _ uncounted.calm)
  case further =>
    refine ⟨_, (Still.accompanies.giveBack _ _ _).requests, ?_⟩
    rw [Request.standing_of_called called]
    exact .here _

private theorem resume_moves (calm : world.interruptions = [])
    (same : ∀ limiter, (world.limiters.get limiter).kind = kinds limiter) (ref : Ref Request) :
    (world.resume ref = world ∧ world.resumeEncounters ref = []) ∨
      (ref.index < world.requests.size ∧
        Moves kinds ref (world.resumeEncounters ref) world (world.resume ref)) := by
  have there (waits : (world.requests.get ref).phase ≠ .fresh) :
      ref.index < world.requests.size := by
    apply Nat.lt_of_not_le
    intro beyond
    rw [Table.get_of_size_le beyond] at waits
    exact waits rfl
  cases phase : (world.requests.get ref).phase with
  | consulting limiter context consultation =>
    simp only [World.resume, World.resumeEncounters, phase]
    cases consultation.outcome? world.now with
    | none => exact .inl ⟨rfl, rfl⟩
    | some answer =>
      have waits : (world.requests.get ref).phase ≠ .fresh := by simp [phase]
      refine .inr ⟨there waits,
        .placed (.passOn calm _ _ _ _) (Still.accompanies.passOn _ _ _ _ _) ?_⟩
      rw [phase]
      exact passOn_path calm same _ _ _ _
  | resting moment outcome =>
    simp only [World.resume, World.resumeEncounters, phase]
    by_cases due : moment ≤ world.now
    · rw [if_pos due]
      have waits : (world.requests.get ref).phase ≠ .fresh := by simp [phase]
      refine .inr ⟨there waits,
        .placed (Tallies.endures.conclude _ _ _ calm) (Still.accompanies.conclude _ _ _) ?_⟩
      rw [phase]
      exact .here _
    · exact .inl ⟨if_neg due, trivial⟩
  | _ => simp only [World.resume, World.resumeEncounters, phase, and_self, true_or]

/-- Each refusal by a limiter or a breaker is counted once. -/
theorem Tallies.turnedAway (tallies : Tallies trace world after) :
    after.metrics.turnedAway = world.metrics.turnedAway +
      ((Kind.total fun kind => trace.countP (Encounter.refuses kind)) + trace.count .shut) := by
  simp only [Metrics.turnedAway, Kind.total, Kind.all, List.foldl_cons, List.foldl_nil,
    Encounter.countP_refuses, tallies.rejected, tallies.abandoned, tallies.shut]
  omega

private theorem census_eq_zero (ended : ∀ place < world.requests.size,
      (world.requests.get ⟨place⟩).phase.standing.pending = false) {test : Standing → Bool}
    (underway : ∀ standing, test standing = true → standing.pending = true) :
    world.census test = 0 := by
  apply Array.countP_eq_zero.mpr
  intro request member found
  obtain ⟨place, inside, there⟩ := Array.mem_iff_getElem.mp member
  have past := ended place inside
  rw [Table.get, Array.getElem?_eq_getElem inside, Option.getD_some, there,
    underway _ found] at past
  cases past

end World

namespace Stack

variable {stack : Stack}

/-- The counters and the log go on as a step says, and the requests come as far as it says. -/
theorem Step.accounts (calm : world.interruptions = [])
    (same : ∀ limiter, (world.limiters.get limiter).kind = kinds limiter)
    (accounts : world.Accounts kinds trace) (step : Step stack world more after) :
    World.Tallies more world after ∧ after.Accounts kinds (trace ++ more) := by
  have moved {ref : Ref Request} (inside : ref.index < world.requests.size)
      (moves : World.Moves kinds ref more world after) :
      World.Tallies more world after ∧ after.Accounts kinds (trace ++ more) := by
    obtain ⟨request, rows, path⟩ := moves.further
    exact ⟨moves.tallies, accounts.move inside path rows⟩
  cases step with
  | submit context =>
    refine ⟨.of_same calm (fun _ => rfl) rfl rfl, ?_⟩
    rw [List.append_nil]
    exact accounts.add rfl rfl
  | start inside => exact moved inside (World.start_moves calm same _)
  | answer inside response => exact moved inside (World.answer_moves calm _ _)
  | wake ref =>
    rcases World.resume_moves calm same ref with ⟨idle, quiet⟩ | ⟨inside, moves⟩
    · rw [idle, quiet, List.append_nil]
      exact ⟨.refl calm, accounts⟩
    · exact moved inside moves
  | drop inside called => exact moved inside (World.drop_moves calm called)
  | elsewhere requests metrics log kinds quiet =>
    rw [List.append_nil]
    exact ⟨.of_same (quiet.trans calm) kinds metrics log, accounts.of_same requests⟩

private theorem Run.accounts (calm : world.interruptions = []) (unsent : world.requests.size = 0)
    (run : Run stack world trace after) :
    World.Tallies trace world after ∧
      after.Accounts (fun limiter => (world.limiters.get limiter).kind) trace := by
  induction run with
  | refl =>
    refine ⟨.refl calm, ?_⟩
    have nobody (test : Standing → Bool) : world.census test = 0 := by
      rw [World.census, Array.eq_empty_of_size_eq_zero unsent]
      rfl
    constructor
    case ends => rw [nobody, unsent]; rfl
    case decides => exact fun kind => (nobody _).symm ▸ rfl
    case calls => exact (nobody _).symm
  | tail run step ih =>
    obtain ⟨tallies, accounts⟩ := ih
    obtain ⟨more, further⟩ := step.accounts tallies.calm tallies.kinds accounts
    exact ⟨tallies.trans more, further⟩

/-! Time passes in runs of a stack, whatever it brings. -/

theorem Run.trans {middle : World} (first : Run stack world trace middle)
    (second : Run stack middle more after) : Run stack world (trace ++ more) after := by
  induction second with
  | refl => exact (List.append_nil trace).symm ▸ first
  | tail run step ih => exact List.append_assoc trace _ _ ▸ ih.tail step

private theorem Run.later (run : Run stack world trace after) (now : Nat) :
    Run stack world trace { after with now } :=
  List.append_nil trace ▸ run.tail (.elsewhere rfl rfl rfl (fun _ => rfl) rfl)

theorem run_ring (stack : Stack) (world : World) (sleeper : Sleeper) :
    ∃ trace, Run stack world trace (world.ring sleeper) := by
  cases sleeper with
  | request ref => exact ⟨_, .tail .refl (.wake ref)⟩
  | bucket ref =>
    have kinds (other : Ref Limiter) :
        ((world.limiters.modify ref (Limiter.mapBucket (·.visit world.now))).get other).kind =
          (world.limiters.get other).kind := by
      rw [Table.get_modify]
      split
      · next same => rw [Limiter.mapBucket_kind, same]
      · rfl
    have filled : Step stack world [] (world.ring (.bucket ref)) := by
      simp only [World.ring, World.refill, World.scheduleFill, World.setAlarm]
      split <;> exact .elsewhere rfl rfl rfl kinds rfl
    exact ⟨_, .tail .refl filled⟩

theorem run_abides (stack : Stack) (world : World) :
    World.Abides (fun _ => True) fun after => ∃ trace, Run stack world trace after where
  alarms _ _ _ := trivial
  ring _ := by
    rintro ⟨trace, run⟩
    obtain ⟨more, rung⟩ := run_ring stack _ _
    exact ⟨trace ++ more, run.trans rung⟩
  off _ := by
    rintro ⟨trace, run⟩
    exact ⟨_, run.tail (.elsewhere rfl rfl rfl (fun _ => rfl) rfl)⟩
  later _ := by
    rintro ⟨trace, run⟩
    exact ⟨trace, run.later _⟩

/-- Sleeping is part of a run, and of all that happens meanwhile an account is given. -/
theorem run_sleep (stack : Stack) (world : World) (millis : Nat) :
    ∃ trace, Run stack world trace (world.sleep millis) :=
  (run_abides stack world).sleepTo ⟨[], .refl⟩ _

/-- What the counters and the log say after a run, beside what has happened in it. The requests are
as many as the handlers called and the refusals counted, every consultation of a limiter is counted
as a decision of its kind, and the log has the refusals in their order. -/
structure AccountedOnce (trace : List Encounter) (world after : World) : Prop where
  requests : after.requests.size + world.metrics.turnedAway =
    trace.count .called + after.metrics.turnedAway
  handled : trace.count .called = after.census Standing.handled
  consulted : ∀ kind, (after.metrics.ofKind kind).decided =
    (world.metrics.ofKind kind).decided + trace.count (.consulted kind)
  abandoned : ∀ kind, (after.metrics.ofKind kind).abandoned =
    (world.metrics.ofKind kind).abandoned + trace.countP (Encounter.abandons kind)
  log : after.rejections = world.rejections ++ trace.filterMap Encounter.rejection?

/-- Every request is accounted for once, in every run of a stack after which none is on its way and in
which nobody else gets at a breaker while a clock is read. -/
theorem run_accountedOnce (calm : world.interruptions = []) (unsent : world.requests.size = 0)
    (run : Run stack world trace after)
    (ended : ∀ place < after.requests.size,
      (after.requests.get ⟨place⟩).phase.standing.pending = false) :
    AccountedOnce trace world after := by
  obtain ⟨tallies, accounts⟩ := run.accounts calm unsent
  constructor
  case requests =>
    have ends := accounts.ends
    rw [World.census_eq_zero ended fun _ => id, Nat.add_zero, Encounter.countP_ends] at ends
    rw [tallies.turnedAway]
    omega
  case handled => exact accounts.calls
  case consulted =>
    intro kind
    rw [accounts.decides, World.census_eq_zero ended Standing.pending_of_awaits, Nat.add_zero,
      Encounter.countP_decides, Encounter.countP_refuses]
    simp only [KindCounts.decided, tallies.granted, tallies.rejected, tallies.abandoned]
    omega
  case abandoned => exact tallies.abandoned
  case log => exact tallies.log

def send (stack : Stack) (world : World) (context : Context) : World :=
  let (ref, world) := world.submit (.stack stack) context
  world.start ref

private theorem Run.send (run : Run stack world trace after) (context : Context) :
    ∃ more, Run stack world (trace ++ more) (stack.send after context) := by
  have inside : after.requests.size < (after.submit (.stack stack) context).2.requests.size :=
    (Table.size_add after.requests _).symm ▸ Nat.lt_succ_self _
  have sent := run.tail (.submit context)
  rw [List.append_nil] at sent
  exact ⟨_, sent.tail (.start inside)⟩

/-- A limiter with one slot, a window whose store takes its time to answer, and a breaker that opens
at the first failure. -/
def strict : World where
  stores := ⟨#[.scripted { replies := [{ delay := 3, answer := .ok true }] }]⟩
  limiters := ⟨#[.concurrency { threshold := 1 },
    .slidingWindow { threshold := 5, window := .ofMillis 1000 } ⟨0⟩ none]⟩
  circuits := ⟨#[{ breaker := .new ⟨1, .ofMillis 1000, 1⟩, clock := ⟨0⟩ }]⟩

/-- While the first request waits for the store a second one finds no slot. The first fails at its
handler, which opens the breaker. The third comes after its deadline, and the fourth is refused by
the breaker. -/
theorem run_accountedOnce_strict :
    let stack : Stack := { limiters := [⟨0⟩, ⟨1⟩], breaker := some ⟨0⟩ }
    ∃ trace after,
      (strict.interruptions = [] ∧ strict.requests.size = 0 ∧ Run stack strict trace after ∧
        ∀ place < after.requests.size,
          (after.requests.get ⟨place⟩).phase.standing.pending = false) ∧
      AccountedOnce trace strict after ∧ after.requests.size = 4 ∧ trace.count .called = 1 ∧
      after.metrics.turnedAway = 3 ∧ trace.count (.consulted .slidingWindow) = 2 ∧
      after.rejections = [.requestRejected .concurrency .concurrencyLimit (some "second") none,
        .requestRejected .concurrency .deadlineExceeded none none] := by
  intro stack
  let waiting := stack.send (stack.send strict {}) { key := some "second" }
  let later := { waiting with now := 3 }
  let failure : Response := { outcome := .failure (.inner "down") }
  let failed := (later.resume ⟨0⟩).answer ⟨0⟩ failure
  let after := stack.send (stack.send failed { deadline := some 0 }) {}
  have begun : Run stack strict [] strict := .refl
  obtain ⟨first, run⟩ := begun.send {}
  obtain ⟨second, run⟩ := run.send { key := some "second" }
  have inside : 0 < (later.resume ⟨0⟩).requests.size := by decide +kernel
  have run := ((run.later 3).tail (.wake ⟨0⟩)).tail (.answer inside failure)
  obtain ⟨third, run⟩ := run.send { deadline := some 0 }
  obtain ⟨fourth, run⟩ := run.send {}
  have ended : ∀ place < after.requests.size,
      (after.requests.get ⟨place⟩).phase.standing.pending = false := by decide +kernel
  have once := run_accountedOnce rfl rfl run ended
  have counted : after.requests.size = 4 ∧ after.census Standing.handled = 1 ∧
      after.metrics.turnedAway = 3 ∧ (after.metrics.ofKind .slidingWindow).decided = 2 ∧
      after.rejections = [.requestRejected .concurrency .concurrencyLimit (some "second") none,
        .requestRejected .concurrency .deadlineExceeded none none] := by
    decide +kernel
  obtain ⟨size, handled, turnedAway, decided, rejections⟩ := counted
  have called := once.handled.trans handled
  have consulted := (once.consulted .slidingWindow).symm.trans decided
  rw [show (strict.metrics.ofKind .slidingWindow).decided = 0 from rfl, Nat.zero_add] at consulted
  exact ⟨_, after, ⟨rfl, rfl, run, ended⟩, once, size, called, turnedAway, consulted, rejections⟩

end Stack

end AdmissionControl
