import AdmissionControl.Proofs.Pipeline.Still
/-!
The slots of a concurrency limiter. A request takes one each time that it passes the limiter, and
owes it until it ends. Whatever stage it comes to and however it ends there, what it owes is what
it has passed, and the limiter has so many slots taken for it.
-/

namespace AdmissionControl

/-- Who passes the stage passes the limiter. -/
def Stage.isOf (ref : Ref Limiter) : Stage → Bool
  | .limiter other _ => other = ref
  | .breaker _ => false

def Held.isSlot (ref : Ref Limiter) : Held → Bool
  | .completion other => other = ref
  | .permit .. => false

namespace Request

def ended (request : Request) : Bool :=
  match request.phase with
  | .answered _ | .failed _ | .dropped => true
  | _ => false

/-- The stages that a request has yet to pass before its handler is called. One whose store keeps
it waiting is among them. -/
def facing (request : Request) : List Stage :=
  match request.phase with
  | .fresh => request.ahead
  | .consulting limiter context _ => .limiter limiter context :: request.ahead
  | _ => []

/-- The slots that a request holds which was sent through some stages: one for each time that it
has passed the limiter, until it ends. -/
def slots (ref : Ref Limiter) (stages : List Stage) (request : Request) : Nat :=
  if request.ended then 0
  else (stages.take (stages.length - request.facing.length)).countP (Stage.isOf ref)

/-- The slots that a request will give back. -/
def owes (ref : Ref Limiter) (request : Request) : Nat := request.held.countP (Held.isSlot ref)

variable {ref : Ref Limiter} {stages : List Stage} {request : Request}

private theorem owes_hold (request : Request) (held : Held) :
    (request.hold held).owes ref = request.owes ref + if held.isSlot ref then 1 else 0 := by
  cases nesting : request.nesting <;> cases held <;>
    simp only [owes, hold, nesting, List.countP_append, List.countP_cons, List.countP_nil,
      Nat.zero_add]

private theorem owes_passed {passed : List Stage} {stage : Stage} {held : Held}
    (owes : request.owes ref = passed.countP (Stage.isOf ref))
    (same : held.isSlot ref = stage.isOf ref) :
    (request.hold held).owes ref = (passed ++ [stage]).countP (Stage.isOf ref) := by
  rw [owes_hold, owes, same, List.countP_append, List.countP_singleton]

/-- A request that was sent through some stages owes a slot for each time that it has passed the
limiter. The limiter itself never keeps it waiting. -/
inductive Balanced (ref : Ref Limiter) (stages : List Stage) (request : Request) : Prop where
  | ended (past : request.ended = true) (empty : request.held = [])
  | inside (passed : List Stage) (live : request.ended = false)
      (split : stages = passed ++ request.facing)
      (owes : request.owes ref = passed.countP (Stage.isOf ref))
      (elsewhere : ∀ limiter context consultation,
        request.phase = .consulting limiter context consultation → limiter ≠ ref)

theorem Balanced.slots_eq (balanced : request.Balanced ref stages) :
    request.slots ref stages = request.owes ref := by
  cases balanced with
  | ended past empty => simp only [slots, owes, past, empty, if_true, List.countP_nil]
  | inside passed live split owed elsewhere =>
    have front : stages.take (stages.length - request.facing.length) = passed := by
      rw [split, List.length_append, Nat.add_sub_cancel, List.take_left]
    rw [slots, live, front, owed]
    rfl

theorem Balanced.passed (balanced : request.Balanced ref stages) (live : request.ended = false) :
    ∃ passed, stages = passed ++ request.facing ∧
      request.owes ref = passed.countP (Stage.isOf ref) ∧
      ∀ limiter context consultation,
        request.phase = .consulting limiter context consultation → limiter ≠ ref := by
  cases balanced with
  | ended past empty => rw [live] at past; cases past
  | inside passed live split owes elsewhere => exact ⟨passed, split, owes, elsewhere⟩

theorem Balanced.congr {other : Request} (balanced : request.Balanced ref stages)
    (phase : other.phase = request.phase) (ahead : other.ahead = request.ahead)
    (held : other.held = request.held) : other.Balanced ref stages := by
  have facing : other.facing = request.facing := by simp only [Request.facing, phase, ahead]
  have same : other.ended = request.ended := by simp only [Request.ended, phase]
  cases balanced with
  | ended past empty => exact .ended (same.trans past) (held.trans empty)
  | inside passed live split owed elsewhere =>
    refine .inside passed (same.trans live) (split.trans (by rw [facing])) ?_ ?_
    · rw [owes, held]
      exact owed
    · rw [phase]
      exact elsewhere

end Request

theorem Concurrency.take_cases (limiter : Concurrency) :
    (limiter.take = (true, { limiter with inFlight := limiter.inFlight + 1 }) ∧
        limiter.inFlight < limiter.threshold) ∨
      (limiter.take = (false, limiter) ∧ limiter.threshold ≤ limiter.inFlight) := by
  unfold take
  split
  · next full => exact .inr ⟨rfl, full⟩
  · next free => exact .inl ⟨rfl, Nat.lt_of_not_le free⟩

namespace World

private theorem read_limiters (world : World) (clock : Ref Clock) :
    (world.read clock).2.limiters = world.limiters :=
  ((keptWithin world.steps).read world clock).limiters

private theorem consult_limiters (world : World) (store : Ref Store) (request : WindowRequest) :
    (world.consult store request).2.limiters = world.limiters := by
  unfold consult
  cases world.stores.get store with
  | memory memory clock =>
    cases request.now with
    | some now => rfl
    | none => exact world.read_limiters clock
  | scripted scripted => rfl

theorem beginConsultation_limiters (world : World) (limiter : SlidingWindow) (store : Ref Store)
    (clock : Option (Ref Clock)) (key : String) :
    (world.beginConsultation limiter store clock key).2.limiters = world.limiters := by
  unfold beginConsultation
  cases clock with
  | some clock => exact (consult_limiters _ _ _).trans (world.read_limiters clock)
  | none => exact consult_limiters _ _ _

theorem weigh_limiters (world : World) (limiter : SlidingWindow) (key : String)
    (answer : StoreAnswer) : (world.weigh limiter key answer).2.limiters = world.limiters := by
  cases answer <;> rfl

theorem account_limiters (world : World) (limiter : Ref Limiter) (context : Context)
    (decision : Decision) : (world.account limiter context decision).limiters = world.limiters := by
  cases decision <;> rfl

theorem ask_limiters (world : World) {one other : Ref Limiter} (apart : one ≠ other)
    (context : Context) :
    (world.ask one context).2.limiters.get other = world.limiters.get other := by
  have set (world : World) (limiter : Limiter) :
      (world.setLimiter one limiter).limiters.get other = world.limiters.get other := by
    rw [setLimiter, Table.get_set, if_neg apart]
  unfold ask
  cases context.abandoned? world.tokens world.now with
  | some reason => rfl
  | none =>
    cases world.limiters.get one with
    | concurrency limiter => exact set _ _
    | fixedWindow limiter clock =>
      simp only []
      rw [set, read_limiters]
    | slidingWindow limiter store clock =>
      have begun := world.beginConsultation_limiters limiter store clock context.windowKey
      simp only []
      split
      · rw [begun]
      · simp only []
        rw [weigh_limiters, begun]
    | tokenBucket bucket => exact set _ _
    | leakyBucket bucket => exact set _ _

theorem answered_limiters (world : World) (limiter : Ref Limiter) (context : Context)
    (answer : StoreAnswer) :
    (world.answered limiter context answer).2.limiters = world.limiters := by
  unfold answered
  split
  · exact weigh_limiters _ _ _ _
  · rfl

/-- So many slots of a limiter are taken, and no more than there are. -/
structure Occupied (ref : Ref Limiter) (threshold taken : Nat) (world : World) : Prop where
  limiter : world.limiters.get ref = .concurrency { threshold, inFlight := taken }
  within : taken ≤ threshold

/-- Where a request has come to through some stages, its slots are taken beside so many others. -/
structure Seated (ref : Ref Limiter) (threshold others : Nat) (stages : List Stage)
    (reached : Request × World) : Prop where
  balanced : reached.1.Balanced ref stages
  occupied : reached.2.Occupied ref threshold (reached.1.owes ref + others)

variable {ref other : Ref Limiter} {threshold taken others : Nat} {world after : World}
  {request : Request} {stages passed rest : List Stage} {context : Context}

namespace Occupied

theorem of_same (occupied : world.Occupied ref threshold taken)
    (same : after.limiters.get ref = world.limiters.get ref) :
    after.Occupied ref threshold taken :=
  ⟨same.trans occupied.limiter, occupied.within⟩

private theorem of_keeps (occupied : world.Occupied ref threshold taken)
    (kept : world.Keeps after) :
    after.Occupied ref threshold taken := occupied.of_same (by rw [kept.limiters])

theorem complete (occupied : world.Occupied ref threshold (taken + 1)) :
    (world.complete ref).Occupied ref threshold taken where
  limiter := by
    simp only [World.complete, Table.get_modify, if_true, occupied.limiter]
    rfl
  within := Nat.le_of_succ_le occupied.within

private theorem completeOther (occupied : world.Occupied ref threshold taken)
    (apart : other ≠ ref) :
    (world.complete other).Occupied ref threshold taken :=
  occupied.of_same (by rw [World.complete, Table.get_modify, if_neg apart])

theorem giveBack {held : List Held} (verdict : Circuit → Verdict)
    (occupied : world.Occupied ref threshold (held.countP (Held.isSlot ref) + others)) :
    (world.giveBack verdict held).Occupied ref threshold others := by
  induction held generalizing world with
  | nil => rwa [List.countP_nil, Nat.zero_add] at occupied
  | cons first rest ih =>
    cases first with
    | completion other =>
      by_cases same : other = ref
      · subst same
        apply ih
        apply complete
        simpa [Held.isSlot, Nat.add_right_comm] using occupied
      · apply ih
        apply completeOther _ same
        simpa [Held.isSlot, same] using occupied
    | permit circuit permit =>
      apply ih
      exact occupied.of_keeps ((keptWithin world.steps).resolve world circuit permit _)

private theorem account (occupied : world.Occupied ref threshold taken) (limiter : Ref Limiter)
    (context : Context) (decision : Decision) :
    (world.account limiter context decision).Occupied ref threshold taken :=
  occupied.of_same (by rw [account_limiters])

/-- The limiter lets a request through where it has a slot left, and that slot is taken. It refuses
the others, and keeps nobody waiting. Another limiter takes none of its slots. -/
theorem ask_cases (occupied : world.Occupied ref threshold taken) (other : Ref Limiter)
    (context : Context) :
    (∃ after, world.ask other context = (.decided .granted, after) ∧
        after.Occupied ref threshold
          (taken + if (Held.completion other).isSlot ref then 1 else 0)) ∨
      (∃ reason retryAfter after,
        world.ask other context = (.decided (.refused reason retryAfter), after) ∧
          after.Occupied ref threshold taken) ∨
      ∃ consultation after, world.ask other context = (.waiting consultation, after) ∧
        other ≠ ref ∧ after.Occupied ref threshold taken := by
  by_cases same : other = ref
  · subst same
    unfold World.ask
    cases context.abandoned? world.tokens world.now with
    | some reason => exact .inr (.inl ⟨reason, none, world, rfl, occupied⟩)
    | none =>
      simp only [occupied.limiter, Concurrency.decide]
      rcases Concurrency.take_cases { threshold, inFlight := taken } with
        ⟨given, free⟩ | ⟨refused, full⟩
      · rw [given]
        refine .inl ⟨_, rfl, ?_, ?_⟩
        · simp only [setLimiter, Table.get_set_self, Held.isSlot, decide_true, if_true]
        · simpa [Held.isSlot] using Nat.succ_le_of_lt free
      · rw [refused]
        refine .inr (.inl ⟨_, _, _, rfl, ?_, occupied.within⟩)
        rw [setLimiter, Table.get_set_self]
  · have spared := occupied.of_same (world.ask_limiters same context)
    rcases asked : world.ask other context with ⟨decision | consultation, after⟩ <;>
      rw [asked] at spared
    · cases decision with
      | granted => exact .inl ⟨after, rfl, by simpa [Held.isSlot, same] using spared⟩
      | refused reason retryAfter => exact .inr (.inl ⟨reason, retryAfter, after, rfl, spared⟩)
    · exact .inr (.inr ⟨consultation, after, rfl, same, spared⟩)

end Occupied

namespace Seated

private theorem refuse (occupied : world.Occupied ref threshold (request.owes ref + others))
    (error : AdmissionError String) :
    Seated ref threshold others stages (world.refuse request error) where
  balanced := .ended rfl rfl
  occupied := by
    have left := occupied.giveBack ((Outcome.failure error).verdict request.nesting)
    rwa [← Nat.zero_add others] at left

theorem conclude (occupied : world.Occupied ref threshold (request.owes ref + others))
    (outcome : Outcome) :
    Seated ref threshold others stages (world.conclude request outcome) where
  balanced := .ended rfl rfl
  occupied := by
    have left := occupied.giveBack (outcome.verdict request.nesting)
    rwa [← Nat.zero_add others] at left

theorem handle (occupied : world.Occupied ref threshold (request.owes ref + others))
    (owes : request.owes ref = stages.countP (Stage.isOf ref)) :
    Seated ref threshold others stages (world.handle request) := by
  have through : stages = stages ++ [] := (List.append_nil stages).symm
  unfold World.handle
  split
  · exact ⟨.inside stages rfl through owes nofun, occupied⟩
  · split
    · exact conclude occupied _
    · exact ⟨.inside stages rfl through owes nofun, occupied⟩

theorem pass (occupied : world.Occupied ref threshold (request.owes ref + others))
    (split : stages = passed ++ rest)
    (owes : request.owes ref = passed.countP (Stage.isOf ref)) :
    Seated ref threshold others stages (world.pass request rest) := by
  -- Each stage that lets the request through moves from the rest to what is passed and owed for.
  induction rest generalizing world request passed with
  | nil =>
    rw [List.append_nil] at split
    exact handle occupied (split ▸ owes)
  | cons stage rest ih =>
    have onward : stages = (passed ++ [stage]) ++ rest := by
      rw [split, List.append_assoc, List.singleton_append]
    cases stage with
    | limiter limiter context =>
      rcases occupied.ask_cases limiter context with ⟨left, asked, taken⟩ |
        ⟨reason, retryAfter, left, asked, spared⟩ | ⟨consultation, left, asked, apart, spared⟩
      · simp only [World.pass, asked]
        refine ih ?_ onward (Request.owes_passed owes rfl)
        rw [Request.owes_hold, Nat.add_right_comm]
        exact taken.account limiter context .granted
      · simp only [World.pass, asked]
        exact refuse (spared.account _ _ _) _
      · simp only [World.pass, asked]
        refine ⟨.inside passed rfl split owes ?_, spared⟩
        intro other _ _ waits
        cases waits
        exact apart
    | breaker breaker =>
      have spared : (world.allow breaker).2.Occupied ref threshold (request.owes ref + others) :=
        occupied.of_keeps ((keptWithin world.steps).allow world breaker)
      rcases asked : world.allow breaker with ⟨refusal | permit, left⟩ <;> rw [asked] at spared
      · simp only [World.pass, asked]
        exact refuse spared _
      · simp only [World.pass, asked]
        refine ih ?_ onward (Request.owes_passed owes rfl)
        rw [Request.owes_hold]
        exact spared

theorem passOn {limiter : Ref Limiter}
    (occupied : world.Occupied ref threshold (request.owes ref + others))
    (split : stages = passed ++ .limiter limiter context :: request.ahead)
    (owes : request.owes ref = passed.countP (Stage.isOf ref)) (apart : limiter ≠ ref)
    (answer : StoreAnswer) :
    Seated ref threshold others stages (world.passOn request limiter context answer) := by
  have spared : (world.answered limiter context answer).2.Occupied ref threshold
      (request.owes ref + others) := occupied.of_same (by rw [answered_limiters])
  unfold World.passOn
  rcases answered : world.answered limiter context answer with
    ⟨granted | ⟨reason, retryAfter⟩, left⟩ <;> rw [answered] at spared
  · have onward : stages = (passed ++ [.limiter limiter context]) ++ request.ahead := by
      rw [split, List.append_assoc, List.singleton_append]
    have slotless : (Held.completion limiter).isSlot ref = false := decide_eq_false apart
    refine pass ?_ onward (Request.owes_passed owes rfl)
    rw [Request.owes_hold, slotless]
    exact spared.account limiter context .granted
  · exact refuse (spared.account limiter context (.refused reason retryAfter)) _

theorem prepare (occupied : world.Occupied ref threshold others) (pipeline : Pipeline)
    (context : Context) :
    Seated ref threshold others (pipeline.stages context) (world.prepare pipeline context) := by
  have free : world.Occupied ref threshold (0 + others) := (Nat.zero_add others).symm ▸ occupied
  unfold World.prepare
  simp only []
  split
  · exact ⟨.ended rfl rfl, free⟩
  · split
    · next breaker rest _ staged =>
      have spared := free.of_keeps ((keptWithin world.steps).allow world breaker)
      rcases asked : world.allow breaker with ⟨refusal | permit, left⟩
      · rw [World.allow] at asked
        rw [asked] at spared
        exact ⟨.ended rfl rfl, spared⟩
      · rw [World.allow] at asked
        rw [asked] at spared
        exact ⟨.inside [.breaker breaker] rfl staged rfl nofun, spared⟩
    · exact ⟨.inside [] rfl rfl rfl nofun, free⟩

end Seated

end World

end AdmissionControl
