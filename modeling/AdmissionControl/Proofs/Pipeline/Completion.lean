import AdmissionControl.Proofs.Pipeline.Effects
import AdmissionControl.World.Time
/-!
A request that is sent through a stack and waited for comes to its end, whatever the stores and the
handler take their time for. Each time at which it is woken it has fewer stages before it, and the
alarm for that time is set. What the execution has come to then is told by its stages.
-/

namespace AdmissionControl

namespace Request

/-- How often a request has yet to be woken, at most. -/
def rank (request : Request) : Nat :=
  match request.phase with
  | .consulting .. => request.ahead.length + 2
  | .resting .. => 1
  | _ => 0

structure Settles (bound : Nat) (request : Request) : Prop where
  told : request.response.isSome = true
  stands : request.outcome?.isSome = true ∨ request.wake?.isSome = true
  rank : request.rank ≤ bound

variable {request : Request} {moment bound : Nat}

private theorem rank_pos (waits : request.wake? = some moment) : 0 < request.rank := by
  unfold wake? at waits
  unfold rank
  cases phase : request.phase <;> simp_all

private theorem rank_le (request : Request) : request.rank ≤ request.ahead.length + 2 := by
  unfold rank
  cases request.phase <;> simp

private theorem Settles.mono {more : Nat} (settles : request.Settles bound)
    (within : bound ≤ more) :
    request.Settles more := ⟨settles.told, settles.stands, Nat.le_trans settles.rank within⟩

private theorem Settles.ended (settles : request.Settles 0) : request.outcome?.isSome = true := by
  rcases settles.stands with ends | waits
  · exact ends
  · obtain ⟨moment, waits⟩ := Option.isSome_iff_exists.mp waits
    exact absurd (rank_pos waits) (Nat.not_lt.mpr settles.rank)

end Request

namespace World

variable {world after : World} {request : Request} {ref : Ref Request}

private theorem settles_refuse (world : World) (told : request.response.isSome = true)
    (error : AdmissionError String) (bound : Nat) :
    (world.refuse request error).1.Settles bound := ⟨told, .inl rfl, Nat.zero_le _⟩

private theorem settles_handle (world : World) (told : request.response.isSome = true) :
    (world.handle request).1.Settles 1 := by
  obtain ⟨response, found⟩ := Option.isSome_iff_exists.mp told
  simp only [handle, found]
  split
  · exact ⟨told, .inl rfl, Nat.zero_le _⟩
  · exact ⟨rfl, .inr rfl, Nat.le_refl _⟩

private theorem settles_pass (world : World) (told : request.response.isSome = true)
    (stages : List Stage) : (world.pass request stages).1.Settles (stages.length + 1) := by
  induction stages generalizing world request with
  | nil => exact @settles_handle { request with ahead := [] } world told
  | cons stage rest ih =>
    have onward (held : Held) (world : World) :
        (world.pass (request.hold held) rest).1.Settles (rest.length + 1 + 1) := by
      have settles := @ih (request.hold held) world (by rwa [request.hold_response])
      exact settles.mono (Nat.le_succ _)
    cases stage with
    | limiter limiter context =>
      simp only [World.pass]
      rcases world.ask limiter context with ⟨⟨granted | ⟨reason, retryAfter⟩⟩ | consultation, left⟩
      · exact onward _ _
      · exact settles_refuse _ told _ _
      · exact ⟨told, .inr rfl, Nat.le_refl _⟩
    | breaker circuit =>
      simp only [World.pass]
      rcases world.allow circuit with ⟨refusal | permit, left⟩
      · exact settles_refuse _ told _ _
      · exact onward _ _

private theorem settles_passOn (world : World) (told : request.response.isSome = true)
    (limiter : Ref Limiter) (context : Context) (answer : StoreAnswer) :
    (world.passOn request limiter context answer).1.Settles (request.ahead.length + 1) := by
  simp only [World.passOn]
  rcases world.answered limiter context answer with ⟨granted | ⟨reason, retryAfter⟩, left⟩
  · exact settles_pass _ (by rwa [request.hold_response]) _
  · exact settles_refuse _ told _ _

/-- A request stays where it is, and no alarm is taken off. -/
structure Heeds (ref : Ref Request) (world after : World) : Prop where
  row : after.requests.get ref = world.requests.get ref
  alarms : ∀ alarm ∈ world.alarms, alarm ∈ after.alarms
  now : after.now = world.now

private theorem now_ring (world : World) (sleeper : Sleeper) :
    (world.ring sleeper).now = world.now := by
  cases sleeper with
  | bucket limiter => exact setAlarm_blind World.now (fun _ _ => rfl) _ _ _
  | request ref =>
    obtain ⟨left, request, still, does⟩ | does := world.resume_places ref <;> rw [ring, does]
    rw [place_now, still.now]

private theorem heeds_refill (world : World) (ref : Ref Request) (limiter : Ref Limiter) :
    Heeds ref world (world.refill limiter) where
  row := by rw [refill, scheduleFill, setAlarm_blind World.requests fun _ _ => rfl]
  alarms alarm member := mem_setAlarm.mpr (.inl member)
  now := setAlarm_blind World.now (fun _ _ => rfl) _ _ _

private theorem heeds_resume (world : World) {other : Ref Request} (apart : other ≠ ref) :
    Heeds ref world (world.resume other) := by
  obtain ⟨left, request, still, does⟩ | does := world.resume_places other <;> rw [does]
  · constructor
    case row => rw [place_requests, still.requests, Table.get_set, if_neg apart]
    case alarms =>
      intro alarm member
      rw [← still.alarms] at member
      exact mem_setAlarm.mpr (.inl member)
    case now => rw [place_now, still.now]
  · exact ⟨rfl, fun alarm member => member, rfl⟩

private theorem alarm_place (world : World) (ref : Ref Request) {request : Request} {moment : Nat}
    (waits : request.wake? = some moment) :
    ⟨moment, .request ref⟩ ∈ (world.place ref request).alarms :=
  mem_setAlarm.mpr (.inr ⟨waits, rfl⟩)

/-- A request that has come at least as far as it was, and the alarm for the moment it waits for. It
is set, or it is among those that are ringing. -/
structure Watched (ref : Ref Request) (request : Request) (pending : List Alarm) (world : World) :
    Prop where
  settles : (world.requests.get ref).Settles request.rank
  nearer : world.requests.get ref = request ∨ (world.requests.get ref).rank < request.rank
  alarm : ∀ moment, (world.requests.get ref).wake? = some moment →
    ⟨moment, .request ref⟩ ∈ pending ∨ ⟨moment, .request ref⟩ ∈ world.alarms

/-- What is due and has not brought the request on is about to ring. -/
def Prompt (ref : Ref Request) (request : Request) (pending : List Alarm) (world : World) : Prop :=
  ∀ moment, (world.requests.get ref).wake? = some moment → moment ≤ world.now →
    (world.requests.get ref).rank < request.rank ∨ ⟨moment, .request ref⟩ ∈ pending

namespace Watched

variable {pending : List Alarm} {alarm : Alarm}

private theorem placed {reached : Request × World} (settles : reached.1.Settles request.rank)
    (nearer : reached.1.rank < request.rank) (pending : List Alarm) :
    Watched ref request pending (reached.2.place ref reached.1) ∧
      Prompt ref request pending (reached.2.place ref reached.1) := by
  obtain ⟨gone, left⟩ := reached
  have row : (left.place ref gone).requests.get ref = gone := by
    rw [place_requests, Table.get_set_self]
  have closer : ((left.place ref gone).requests.get ref).rank < request.rank := by rwa [row]
  refine ⟨⟨by rwa [row], .inr closer, fun moment waits => .inr ?_⟩, fun _ _ _ => .inl closer⟩
  rw [row] at waits
  exact left.alarm_place ref waits

private theorem begins {left : World} {bound : Nat} (settles : request.Settles bound) :
    Watched ref request [] (left.place ref request) := by
  have row : (left.place ref request).requests.get ref = request := by
    rw [place_requests, Table.get_set_self]
  refine ⟨?_, .inl row, fun moment waits => .inr ?_⟩
  · rw [row]
    exact ⟨settles.told, settles.stands, Nat.le_refl _⟩
  · rw [row] at waits
    exact left.alarm_place ref waits

private theorem heeds (watched : Watched ref request (alarm :: pending) world)
    (prompt : Prompt ref request (alarm :: pending) world)
    (another : alarm.sleeper ≠ .request ref) (heeds : Heeds ref world after) :
    Watched ref request pending after ∧ Prompt ref request pending after := by
  have behind (moment : Nat) (member : ⟨moment, .request ref⟩ ∈ alarm :: pending) :
      ⟨moment, .request ref⟩ ∈ pending := by
    rcases List.mem_cons.mp member with same | behind
    · exact absurd (congrArg Alarm.sleeper same).symm another
    · exact behind
  constructor
  case left =>
    refine ⟨heeds.row ▸ watched.settles, heeds.row ▸ watched.nearer, ?_⟩
    rw [heeds.row]
    intro moment waits
    exact (watched.alarm moment waits).imp (behind moment) (heeds.alarms _)
  case right =>
    intro moment waits due
    rw [heeds.row] at waits ⊢
    exact (prompt moment waits (heeds.now ▸ due)).imp_right (behind moment)

/-- An alarm that is due rings. If it was the request's, the request goes on. -/
theorem ring (watched : Watched ref request (alarm :: pending) world)
    (prompt : Prompt ref request (alarm :: pending) world) (due : alarm.moment ≤ world.now) :
    Watched ref request pending (world.ring alarm.sleeper) ∧
      Prompt ref request pending (world.ring alarm.sleeper) := by
  obtain ⟨moment, sleeper⟩ := alarm
  cases sleeper with
  | bucket limiter => exact watched.heeds prompt nofun (world.heeds_refill ref limiter)
  | request other =>
    by_cases same : other = ref
    · subst same
      obtain ⟨told, -, rank⟩ := watched.settles
      obtain ⟨limiter, context, consultation, answer, phase, -, does⟩ |
        ⟨_, outcome, phase, -, does⟩ | ⟨does, early⟩ := world.resume_cases other
      · simp only [World.ring, does]
        have settles := world.settles_passOn told limiter context answer
        rw [Request.rank, phase] at rank
        exact placed (settles.mono (Nat.le_of_succ_le rank))
          (Nat.lt_of_le_of_lt settles.rank rank) pending
      · simp only [World.ring, does]
        rw [Request.rank, phase] at rank
        have concluded : (world.conclude (world.requests.get other) outcome).1.Settles
            request.rank := ⟨told, .inl rfl, Nat.zero_le _⟩
        exact placed concluded (Nat.lt_of_lt_of_le Nat.zero_lt_one rank) pending
      · simp only [World.ring, does]
        refine ⟨⟨watched.settles, watched.nearer, fun later waits => ?_⟩,
          fun later waits late => ?_⟩
        · refine (watched.alarm later waits).imp_left fun member => ?_
          rcases List.mem_cons.mp member with same | behind
          · cases same
            exact absurd due (Nat.not_le.mpr (early _ waits))
          · exact behind
        · exact absurd late (Nat.not_le.mpr (early later waits))
    · have another : Sleeper.request other ≠ .request ref := fun equal => same (by cases equal; rfl)
      exact watched.heeds prompt another (world.heeds_resume same)

private theorem settle (watched : Watched ref request [] world) :
    Watched ref request [] world.settle ∧ Prompt ref request [] world.settle ∧
      world.settle.now = world.now := by
  have rung (due : List Alarm) : ∀ {world : World}, Watched ref request due world →
      Prompt ref request due world → (∀ alarm ∈ due, alarm.moment ≤ world.now) →
      let after := due.foldl (fun world alarm => world.ring alarm.sleeper) world
      Watched ref request [] after ∧ Prompt ref request [] after ∧ after.now = world.now := by
    induction due with
    | nil => exact fun watched prompt _ => ⟨watched, prompt, rfl⟩
    | cons alarm rest ih =>
      intro world watched prompt past
      rw [List.forall_mem_cons] at past
      obtain ⟨watched, prompt⟩ := watched.ring prompt past.1
      have same := world.now_ring alarm.sleeper
      obtain ⟨watched, prompt, now⟩ := ih watched prompt (same.symm ▸ past.2)
      exact ⟨watched, prompt, now.trans same⟩
  obtain ⟨due, later, settles, rings, waits⟩ := world.settle_eq
  rw [settles]
  have watching : Watched ref request due { world with alarms := later } := by
    refine ⟨watched.settles, watched.nearer, fun moment asleep => ?_⟩
    have set := (watched.alarm moment asleep).resolve_left List.not_mem_nil
    exact (Nat.lt_or_ge world.now moment).symm.imp (fun past => (rings _).mpr ⟨set, past⟩)
      fun early => (waits _).mpr ⟨set, early⟩
  refine rung due watching (fun moment asleep past => ?_)
    fun alarm member => ((rings _).mp member).2
  exact .inr ((rings _).mpr ⟨(watched.alarm moment asleep).resolve_left List.not_mem_nil, past⟩)

/-- Whatever happens on the way to a moment, the request has come at least as far as it was. -/
theorem reachWithin (watched : Watched ref request [] world) (steps target : Nat) :
    Watched ref request [] (World.reachWithin steps world target) ∧
      target ≤ (World.reachWithin steps world target).now := by
  have later {world : World} (watched : Watched ref request [] world) (now : Nat) :
      Watched ref request [] { world with now } :=
    ⟨watched.settles, watched.nearer, watched.alarm⟩
  induction steps generalizing world with
  | zero => exact ⟨later watched _, Nat.le_max_right _ _⟩
  | succ steps ih =>
    unfold World.reachWithin
    split
    · exact ih (later watched _).settle.1
    · exact ⟨later watched _, Nat.le_max_right _ _⟩

private theorem sleepTo (watched : Watched ref request [] world) {moment : Nat}
    (waits : request.wake? = some moment) :
    Watched ref request [] (world.sleepTo moment) ∧
      ((world.sleepTo moment).requests.get ref).rank < request.rank := by
  obtain ⟨reached, there⟩ := watched.settle.1.reachWithin (moment - world.now) moment
  obtain ⟨settled, prompt, now⟩ := reached.settle
  refine ⟨settled, ?_⟩
  rcases settled.nearer with same | nearer
  · rw [← same] at waits
    exact (prompt moment waits (now ▸ there)).resolve_right List.not_mem_nil
  · exact nearer

/-- A request that is waited for ends. -/
theorem awaitWithin {steps : Nat} (watched : Watched ref request [] world)
    (here : world.requests.get ref = request) (enough : request.rank ≤ steps) :
    ((world.awaitWithin steps ref).requests.get ref).outcome?.isSome = true := by
  induction steps generalizing world request with
  | zero => exact (watched.settles.mono enough).ended
  | succ steps ih =>
    unfold World.awaitWithin
    rw [here]
    cases waits : request.wake? with
    | none =>
      have settles := watched.settles
      rw [here] at settles
      simpa [waits, here] using settles.stands
    | some moment =>
      obtain ⟨slept, nearer⟩ := watched.sleepTo waits
      have rewatched : Watched ref ((world.sleepTo moment).requests.get ref) []
          (world.sleepTo moment) :=
        ⟨⟨slept.settles.told, slept.settles.stands, Nat.le_refl _⟩, .inl rfl, slept.alarm⟩
      exact ih rewatched rfl (by omega)

end Watched

/-- Only who is woken sets another alarm, and for itself. -/
theorem ring_alarms (world : World) (sleeper : Sleeper) :
    ∀ alarm ∈ (world.ring sleeper).alarms, alarm ∈ world.alarms ∨ alarm.sleeper = sleeper := by
  intro alarm member
  cases sleeper with
  | bucket limiter => exact (mem_setAlarm.mp member).imp_right And.right
  | request ref =>
    obtain ⟨left, request, still, does⟩ | does := world.resume_places ref <;>
      rw [ring, does] at member
    · rw [← still.alarms]
      exact (mem_setAlarm.mp member).imp_right And.right
    · exact .inl member

/-- What else happens while a request is waited for: it gets later, alarms that ring are taken off,
and those who have set them go on. -/
inductive Around (sleepers : Sleeper → Prop) (ref : Ref Request) (world : World) :
    World → Prop where
  | later {now : Nat} (onward : world.now ≤ now) : Around sleepers ref world { world with now }
  | off {alarms : List Alarm} (fewer : ∀ alarm ∈ alarms, alarm ∈ world.alarms) :
    Around sleepers ref world { world with alarms }
  | fill {limiter : Ref Limiter} (asleep : sleepers (.bucket limiter)) :
    Around sleepers ref world (world.refill limiter)
  | resume {other : Ref Request} (asleep : sleepers (.request other)) (apart : other ≠ ref) :
    Around sleepers ref world (world.resume other)

def Asleep (world : World) (sleeper : Sleeper) : Prop :=
  ∃ alarm ∈ world.alarms, alarm.sleeper = sleeper

private theorem Around.untouched (sleepers : Sleeper → Prop) (ref : Ref Request) :
    Untouched (Around sleepers ref) (·.requests.get ref) := by
  intro world after around
  cases around with
  | later | off => rfl
  | @fill limiter => exact (world.heeds_refill ref limiter).row
  | resume _ apart => exact (world.heeds_resume apart).row

/-- Where nobody has set an alarm nothing happens but that it gets later. -/
theorem Around.alone {α : Type u} {sleepers : Sleeper → Prop} {see : World → α}
    (nobody : ∀ sleeper, ¬ sleepers sleeper)
    (timeless : ∀ (world : World) now alarms, see { world with now, alarms } = see world)
    (ref : Ref Request) : Untouched (Around sleepers ref) see := by
  intro world after around
  cases around with
  | later => exact timeless world _ world.alarms
  | off => exact timeless world world.now _
  | fill asleep => exact absurd asleep (nobody _)
  | resume asleep => exact absurd asleep (nobody _)

/-- Whatever time brings is part of the life of a request. -/
theorem life_abides (sleepers : Sleeper → Prop) (ref : Ref Request) (operation : Outcome)
    (ready : World) :
    Abides (fun sleeper => sleeper = .request ref ∨ sleepers sleeper) fun world =>
      (∃ calls, Life (Around sleepers ref) ref operation ready calls world) ∧
        ∀ alarm ∈ world.alarms, alarm.sleeper = .request ref ∨ sleepers alarm.sleeper where
  alarms here := here.2
  ring {world sleeper} asleep := by
    rintro ⟨⟨calls, life⟩, alarms⟩
    constructor
    case left =>
      by_cases own : sleeper = .request ref
      · subst own
        exact ⟨_, life.own .wake⟩
      · have asleep := asleep.resolve_left own
        cases sleeper with
        | bucket limiter => exact ⟨calls, life.other (.fill asleep)⟩
        | request other =>
          exact ⟨calls, life.other (.resume asleep fun same => own (congrArg _ same))⟩
    case right =>
      intro alarm member
      rcases world.ring_alarms sleeper alarm member with before | mine
      · exact alarms alarm before
      · rwa [mine]
  off fewer := by
    rintro ⟨⟨calls, life⟩, alarms⟩
    exact ⟨⟨calls, life.other (.off fewer)⟩, fun alarm member => alarms alarm (fewer alarm member)⟩
  later onward := by
    rintro ⟨⟨calls, life⟩, alarms⟩
    exact ⟨⟨calls, life.other (.later onward)⟩, alarms⟩

/-- A request is sent through a stack, its handler is told at once what to do, and the end is waited
for. -/
def execute (world : World) (stack : Stack) (context : Context) (response : Response) :
    Ref Request × World :=
  let (ref, ready) := world.submit (.stack stack) context
  (ref, ((ready.answer ref response).start ref).await ref)

private theorem start_submitted (world : World) (stack : Stack) (context : Context)
    (response : Response) :
    let sent := world.submit (.stack stack) context
    ∃ left request, (sent.2.answer sent.1 response).start sent.1 = World.place left sent.1 request ∧
      left.alarms = world.alarms ∧
      request.Settles ((Pipeline.stackStages context stack).length + 1) := by
  intro sent
  let ready : Request := { ahead := Pipeline.stackStages context stack, response := some response }
  obtain ⟨told, found⟩ : sent.2.answer sent.1 response = sent.2.setRequest sent.1 ready ∧
      (sent.2.answer sent.1 response).requests.get sent.1 = ready := by
    have row : sent.2.requests.get sent.1 = { ahead := Pipeline.stackStages context stack } :=
      Table.get_add_self _ _
    obtain ⟨handling, -⟩ | ⟨-, told⟩ := sent.2.answer_cases sent.1 response
    · rw [row] at handling
      cases handling
    · rw [told, row]
      exact ⟨rfl, Table.get_set_self _ _ _⟩
  have still := Still.accompanies.pass (sent.2.answer sent.1 response)
    { ready with polled := true } ready.ahead
  refine ⟨_, _, start_fresh found rfl, ?_, @settles_pass { ready with polled := true } _ rfl _⟩
  rw [still.alarms, told]
  rfl

private theorem execute_life (world : World) (stack : Stack) (context : Context)
    (response : Response) :
    let sent := world.submit (.stack stack) context
    let run := world.execute stack context response
    ∃ calls, Life (Around world.Asleep run.1) run.1 response.outcome sent.2 calls run.2 := by
  intro sent run
  obtain ⟨left, request, started, alarms, -⟩ := world.start_submitted stack context response
  have told : Life (Around world.Asleep run.1) run.1 response.outcome sent.2 _
      (sent.2.answer sent.1 response) := .own .ready (.answer response.delay)
  have asleep : ∀ alarm ∈ ((sent.2.answer sent.1 response).start sent.1).alarms,
      alarm.sleeper = .request run.1 ∨ world.Asleep alarm.sleeper := by
    intro alarm member
    rw [started] at member
    rcases mem_setAlarm.mp member with before | ⟨-, own⟩
    · exact .inr ⟨alarm, alarms ▸ before, rfl⟩
    · exact .inl own
  exact ((life_abides world.Asleep run.1 response.outcome sent.2).await
    ⟨⟨_, told.own .start⟩, asleep⟩ run.1).1

private theorem execute_ends (world : World) (stack : Stack) (context : Context)
    (response : Response) :
    let run := world.execute stack context response
    (run.2.requests.get run.1).outcome?.isSome = true := by
  intro run
  let sent := world.submit (.stack stack) context
  obtain ⟨left, request, started, -, settles⟩ := world.start_submitted stack context response
  have row : (left.place sent.1 request).requests.get sent.1 = request := by
    rw [place_requests, Table.get_set_self]
  have watched : Watched sent.1 request [] (left.place sent.1 request) := .begins settles
  have waited : run.2 = ((sent.2.answer sent.1 response).start sent.1).await sent.1 := rfl
  have same : run.1 = sent.1 := rfl
  rw [waited, same, started, World.await, row]
  exact watched.awaitWithin row request.rank_le

/-- A request has ended, and all that has been done for it is what its stages say. -/
def Composed (others : World → World → Prop) (ref : Ref Request) (context : Context)
    (stack : Stack) (operation : Outcome) (world : World) (calls : Nat) (after : World) : Prop :=
  ∃ course left, (after.requests.get ref).outcome? = some course.outcome ∧ course.calls = calls ∧
    Accomplishes others context stack operation world course left after

private theorem Travels.composed {others : World → World → Prop} {context : Context} {stack : Stack}
    {operation : Outcome} (travels : Travels others context stack operation world ref after)
    (ended : (after.requests.get ref).outcome?.isSome = true) :
    Composed others ref context stack operation world (after.requests.get ref).called.toNat
      after := by
  cases travels.journey with
  | fresh phase => simp [Request.outcome?, phase] at ended
  | consulting phase => simp [Request.outcome?, phase] at ended
  | running phase =>
    rcases phase with phase | ⟨_, phase⟩ <;> simp [Request.outcome?, phase] at ended
  | @ended course left outcome calls executes =>
    exact ⟨course, left, outcome, calls, executes.accomplishes⟩

/-- A request that is sent through a stack and waited for ends, and all that has been done for it is
what its stages say. So it is whatever is done to a request and whatever happens beside it. -/
theorem executions_compose (world : World) (stack : Stack) (context : Context) :
    let sent := world.submit (.stack stack) context
    (∀ response,
      let run := world.execute stack context response
      ∃ calls, Life (Around world.Asleep run.1) run.1 response.outcome sent.2 calls run.2 ∧
        Composed (Around world.Asleep run.1) run.1 context stack response.outcome world calls
          run.2) ∧
    ∀ others operation calls after, Untouched others (·.requests.get sent.1) →
      Life others sent.1 operation sent.2 calls after →
      (after.requests.get sent.1).outcome?.isSome = true →
      Composed others sent.1 context stack operation world calls after := by
  intro sent
  have composed {others : World → World → Prop} {operation : Outcome} {calls : Nat} {after : World}
      (untouched : Untouched others (·.requests.get sent.1))
      (life : Life others sent.1 operation sent.2 calls after)
      (ended : (after.requests.get sent.1).outcome?.isSome = true) :
      Composed others sent.1 context stack operation world calls after := by
    have unsent : (sent.2.requests.get sent.1).called = false := by
      rw [show sent.2.requests.get sent.1 = _ from Table.get_add_self _ _]
      rfl
    rw [life.calls_eq untouched unsent]
    exact (life.travels untouched (.submit others context stack operation world)).composed ended
  constructor
  · intro response run
    obtain ⟨calls, life⟩ := world.execute_life stack context response
    have ended := world.execute_ends stack context response
    exact ⟨calls, life, composed (Around.untouched _ _) life ended⟩
  · intro others operation calls after untouched life ended
    exact composed untouched life ended

/-- A request passes one limiter twice and is refused by the next, which is full. Its slots are
back, and its handler was not called. -/
theorem executions_compose_crowded :
    let world : World :=
      { limiters := ⟨#[.concurrency { threshold := 2 },
          .concurrency { threshold := 1, inFlight := 1 }]⟩
        circuits := ⟨#[{ breaker := .new ⟨1, .ofMillis 1000, 1⟩, clock := ⟨0⟩ }]⟩ }
    let stack : Stack := { limiters := [⟨0⟩, ⟨0⟩, ⟨1⟩], breaker := some ⟨0⟩ }
    let sent := world.submit (.stack stack) {}
    let run := world.execute stack {} { outcome := .success }
    ∃ calls,
      (Untouched (Around world.Asleep sent.1) (·.requests.get sent.1) ∧
        Life (Around world.Asleep sent.1) sent.1 .success sent.2 calls run.2 ∧
        (run.2.requests.get sent.1).outcome?.isSome = true) ∧
      calls = 0 ∧
      (run.2.requests.get sent.1).outcome? =
        some (.failure (.ofRefusal .concurrencyLimit none)) ∧
      run.2.limiters.get ⟨0⟩ = world.limiters.get ⟨0⟩ := by
  intro world stack sent run
  have outcome : (run.2.requests.get sent.1).outcome? =
      some (.failure (.ofRefusal .concurrencyLimit none)) := by decide +kernel
  have nobody (sleeper : Sleeper) : ¬ world.Asleep sleeper := by
    rintro ⟨alarm, member, -⟩
    cases member
  obtain ⟨runs, lives⟩ := executions_compose world stack {}
  obtain ⟨calls, life, -⟩ := runs { outcome := .success }
  have untouched := Around.untouched world.Asleep sent.1
  have ended : (run.2.requests.get sent.1).outcome?.isSome = true := by rw [outcome]; rfl
  obtain ⟨course, left, comes, called, done⟩ := lives _ _ calls run.2 untouched life ended
  have refused : course.outcome = .failure (.ofRefusal .concurrencyLimit none) :=
    Option.some.inj (comes.symm.trans outcome)
  refine ⟨calls, ⟨untouched, life, ended⟩, ?_, outcome, ?_⟩
  · rw [← called]
    cases done.executes.composes with
    | refused | shut => rfl
    | ran => cases refused
  · exact done.returned ⟨0⟩ { threshold := 2 } rfl (Around.alone nobody (fun _ _ _ => rfl) sent.1)

end World

end AdmissionControl
