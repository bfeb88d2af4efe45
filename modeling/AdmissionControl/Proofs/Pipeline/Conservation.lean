import AdmissionControl.Proofs.Pipeline.Slots
import AdmissionControl.World.Time
import Mathlib.Algebra.BigOperators.Group.Finset.Basic
import Mathlib.Logic.Relation

namespace AdmissionControl

/-- The requests that were sent, with the stages that each was sent through, and how many permits
are held by callers who have taken a slot in person. -/
structure Crowd where
  world : World
  sent : List (List Stage) := []
  permits : Nat := 0

namespace World

def slots (ref : Ref Limiter) (sent : List (List Stage)) (world : World) : Nat :=
  ∑ place ∈ Finset.range sent.length,
    (world.requests.get ⟨place⟩).slots ref (sent[place]?.getD [])

end World

namespace Crowd

def acquire (ref : Ref Limiter) (crowd : Crowd) : Crowd :=
  match crowd.world.attempt ref "" with
  | (.passed, world) => { crowd with world, permits := crowd.permits + 1 }
  | (_, world) => { crowd with world }

/-- What may happen next. Requests are made ready, started, answered by their handlers, woken and
dropped, at any time and as often as anybody likes. Elsewhere anything may happen that leaves the
limiter and the requests alone. -/
inductive Step (ref : Ref Limiter) (crowd : Crowd) : Crowd → Prop where
  | submit (pipeline : Pipeline) (context : Context) :
    Step ref crowd
      { crowd with
        world := (crowd.world.submit pipeline context).2
        sent := crowd.sent ++ [pipeline.stages context] }
  | start {place : Nat} (inside : place < crowd.sent.length) :
    Step ref crowd { crowd with world := crowd.world.start ⟨place⟩ }
  | answer {place : Nat} (inside : place < crowd.sent.length) (response : Response) :
    Step ref crowd { crowd with world := crowd.world.answer ⟨place⟩ response }
  | wake {place : Nat} (inside : place < crowd.sent.length) :
    Step ref crowd { crowd with world := crowd.world.resume ⟨place⟩ }
  | drop {place : Nat} (inside : place < crowd.sent.length) :
    Step ref crowd { crowd with world := crowd.world.drop ⟨place⟩ }
  | acquire : Step ref crowd (crowd.acquire ref)
  | letGo (held : 0 < crowd.permits) :
    Step ref crowd
      { crowd with world := crowd.world.complete ref, permits := crowd.permits - 1 }
  | reach (target : Nat) : Step ref crowd { crowd with world := crowd.world.reach target }
  | sleep (millis : Nat) : Step ref crowd { crowd with world := crowd.world.sleep millis }
  | jump (millis : Nat) : Step ref crowd { crowd with world := crowd.world.jump millis }
  | elsewhere {after : World}
    (limiter : after.limiters.get ref = crowd.world.limiters.get ref)
    (requests : after.requests = crowd.world.requests) :
    Step ref crowd { crowd with world := after }

end Crowd

namespace World

private theorem Occupied.attempt_cases {ref : Ref Limiter} {threshold taken : Nat} {world : World}
    (occupied : world.Occupied ref threshold taken) (key : String) :
    (∃ after, world.attempt ref key = (.passed, after) ∧ after.requests = world.requests ∧
        after.Occupied ref threshold (taken + 1)) ∨
      ∃ after, world.attempt ref key = (.full, after) ∧ after.requests = world.requests ∧
        after.Occupied ref threshold taken := by
  unfold attempt
  simp only [occupied.limiter]
  rcases Concurrency.take_cases { threshold, inFlight := taken } with
    ⟨given, free⟩ | ⟨refused, full⟩
  · rw [given]
    refine .inl ⟨_, rfl, rfl, ?_, Nat.succ_le_of_lt free⟩
    rw [setLimiter, Table.get_set_self]
  · rw [refused]
    refine .inr ⟨_, rfl, rfl, ?_, occupied.within⟩
    rw [setLimiter, Table.get_set_self]

/-- Every request holds what it has passed, and the limiter has so many slots taken. -/
structure Accounted (ref : Ref Limiter) (threshold : Nat) (sent : List (List Stage))
    (permits : Nat) (world : World) : Prop where
  size : world.requests.size = sent.length
  balanced : ∀ place stages, sent[place]? = some stages →
    (world.requests.get ⟨place⟩).Balanced ref stages
  occupied : world.Occupied ref threshold (world.slots ref sent + permits)

namespace Accounted

variable {ref : Ref Limiter} {threshold permits place : Nat} {sent : List (List Stage)}
  {stages : List Stage} {world after : World} {reached : Request × World}

private theorem of_same (accounted : world.Accounted ref threshold sent permits)
    (limiter : after.limiters.get ref = world.limiters.get ref)
    (requests : after.requests = world.requests) :
    after.Accounted ref threshold sent permits where
  size := requests ▸ accounted.size
  balanced := requests ▸ accounted.balanced
  occupied := by
    rw [slots, requests]
    exact accounted.occupied.of_same limiter

private theorem update (accounted : world.Accounted ref threshold sent permits)
    (found : sent[place]? = some stages)
    (seated : ∀ others,
      world.Occupied ref threshold ((world.requests.get ⟨place⟩).owes ref + others) →
        Seated ref threshold others stages reached)
    (rows : after.requests = world.requests.set ⟨place⟩ reached.1)
    (same : after.limiters = reached.2.limiters) :
    after.Accounted ref threshold sent permits := by
  have inside := (List.getElem?_eq_some_iff.mp found).1
  have member : place ∈ Finset.range sent.length := Finset.mem_range.mpr inside
  have row (other : Nat) : after.requests.get ⟨other⟩ =
      if place = other then reached.1 else world.requests.get ⟨other⟩ := by
    rw [rows, Table.get_set]
    simp only [Ref.mk.injEq]
  -- The slots of all other requests are among those that this one finds taken.
  let rest := ∑ other ∈ (Finset.range sent.length).erase place,
    (world.requests.get ⟨other⟩).slots ref (sent[other]?.getD [])
  have before : world.slots ref sent = (world.requests.get ⟨place⟩).owes ref + rest := by
    rw [slots, ← Finset.add_sum_erase _ _ member, found, Option.getD_some,
      (accounted.balanced place stages found).slots_eq]
  obtain ⟨balanced, occupied⟩ := seated (rest + permits) (by
    rw [← Nat.add_assoc, ← before]
    exact accounted.occupied)
  have afterwards : after.slots ref sent = reached.1.owes ref + rest := by
    rw [slots, ← Finset.add_sum_erase _ _ member, found, Option.getD_some, row, if_pos rfl,
      balanced.slots_eq]
    congr 1
    apply Finset.sum_congr rfl
    intro other erased
    rw [row, if_neg (Finset.ne_of_mem_erase erased).symm]
  constructor
  case size =>
    rw [rows, Table.size_set_of_lt (accounted.size ▸ inside), accounted.size]
  case balanced =>
    intro other passing listed
    rw [row]
    split
    · next here =>
      subst here
      obtain rfl := Option.some.inj (found.symm.trans listed)
      exact balanced
    · exact accounted.balanced other passing listed
  case occupied =>
    rw [afterwards, Nat.add_assoc]
    exact occupied.of_same (by rw [same])

private theorem moved (accounted : world.Accounted ref threshold sent permits)
    (found : sent[place]? = some stages) (still : world.Still reached.2)
    (seated : ∀ others,
      world.Occupied ref threshold ((world.requests.get ⟨place⟩).owes ref + others) →
        Seated ref threshold others stages reached) :
    (reached.2.place ⟨place⟩ reached.1).Accounted ref threshold sent permits := by
  apply accounted.update found seated
  case rows => rw [place_requests, still.requests]
  case same => rw [place_limiters]

private theorem noted (accounted : world.Accounted ref threshold sent permits)
    (found : sent[place]? = some stages) {request : Request}
    (phase : request.phase = (world.requests.get ⟨place⟩).phase)
    (ahead : request.ahead = (world.requests.get ⟨place⟩).ahead)
    (held : request.held = (world.requests.get ⟨place⟩).held) :
    (world.setRequest ⟨place⟩ request).Accounted ref threshold sent permits := by
  have balanced := (accounted.balanced place stages found).congr phase ahead held
  have seated (others : Nat) (occupied : world.Occupied ref threshold
      ((world.requests.get ⟨place⟩).owes ref + others)) :
      Seated ref threshold others stages (request, world) := by
    refine ⟨balanced, ?_⟩
    rw [Request.owes, held]
    exact occupied
  exact accounted.update found seated rfl rfl

private theorem start (accounted : world.Accounted ref threshold sent permits)
    (found : sent[place]? = some stages) :
    (world.start ⟨place⟩).Accounted ref threshold sent permits := by
  have balanced := accounted.balanced place stages found
  obtain ⟨fresh, does⟩ | ⟨-, does⟩ := world.start_cases ⟨place⟩ <;> rw [does]
  · have phase : (world.requests.get ⟨place⟩).phase = .fresh := fresh
    have live : (world.requests.get ⟨place⟩).ended = false := by simp only [Request.ended, phase]
    obtain ⟨passed, split, owes, -⟩ := balanced.passed live
    simp only [Request.facing, phase] at split
    exact accounted.moved found (Still.accompanies.pass _ _ _) fun others occupied =>
      .pass occupied split owes
  · exact accounted.noted found rfl rfl rfl

private theorem answer (accounted : world.Accounted ref threshold sent permits)
    (found : sent[place]? = some stages) (response : Response) :
    (world.answer ⟨place⟩ response).Accounted ref threshold sent permits := by
  have balanced := accounted.balanced place stages found
  obtain ⟨handling, does⟩ | ⟨-, does⟩ := world.answer_cases ⟨place⟩ response <;> rw [does]
  · have phase : (world.requests.get ⟨place⟩).phase = .handling := handling
    have live : (world.requests.get ⟨place⟩).ended = false := by simp only [Request.ended, phase]
    obtain ⟨passed, split, owes, -⟩ := balanced.passed live
    simp only [Request.facing, phase, List.append_nil] at split
    subst split
    exact accounted.moved found (Still.accompanies.handle _ _) fun others occupied =>
      .handle occupied owes
  · exact accounted.noted found rfl rfl rfl

private theorem resume (accounted : world.Accounted ref threshold sent permits) (place : Nat) :
    (world.resume ⟨place⟩).Accounted ref threshold sent permits := by
  cases found : sent[place]? with
  | none =>
    have missing : world.requests.get ⟨place⟩ = default := by
      apply Table.get_of_size_le
      rw [accounted.size]
      exact List.getElem?_eq_none_iff.mp found
    have idle : world.resume ⟨place⟩ = world := by
      rw [World.resume, missing]
      rfl
    rw [idle]
    exact accounted
  | some stages =>
    have balanced := accounted.balanced place stages found
    obtain ⟨limiter, context, consultation, answer, waiting, -, does⟩ | ⟨_, _, -, -, does⟩ |
      ⟨does, -⟩ := world.resume_cases ⟨place⟩ <;> rw [does]
    · have live : (world.requests.get ⟨place⟩).ended = false := by
        simp only [Request.ended, waiting]
      obtain ⟨passed, split, owes, elsewhere⟩ := balanced.passed live
      simp only [Request.facing, waiting] at split
      exact accounted.moved found (Still.accompanies.passOn _ _ _ _ _) fun others occupied =>
        .passOn occupied split owes (elsewhere _ _ _ waiting) answer
    · exact accounted.moved found (Still.accompanies.conclude _ _ _) fun others occupied =>
        .conclude occupied _
    · exact accounted

private theorem drop (accounted : world.Accounted ref threshold sent permits)
    (found : sent[place]? = some stages) :
    (world.drop ⟨place⟩).Accounted ref threshold sent permits := by
  let dropped : Request :=
    { world.requests.get ⟨place⟩ with ahead := [], held := [], phase := .dropped }
  have still := Still.accompanies.giveBack (fun _ => .none) (world.setRequest ⟨place⟩ dropped)
    (world.requests.get ⟨place⟩).held
  have seated (others : Nat) (occupied : world.Occupied ref threshold
      ((world.requests.get ⟨place⟩).owes ref + others)) :
      Seated ref threshold others stages (dropped, world.drop ⟨place⟩) := by
    have there : (world.setRequest ⟨place⟩ dropped).Occupied ref threshold
        ((world.requests.get ⟨place⟩).owes ref + others) := occupied.of_same rfl
    refine ⟨.ended rfl rfl, ?_⟩
    rw [Request.owes, List.countP_nil, Nat.zero_add]
    exact there.giveBack _
  exact accounted.update found seated still.requests rfl

private theorem ring (accounted : world.Accounted ref threshold sent permits) (sleeper : Sleeper) :
    (world.ring sleeper).Accounted ref threshold sent permits := by
  cases sleeper with
  | bucket other =>
    have filled : (world.limiters.modify other (Limiter.mapBucket (·.visit world.now))).get ref =
        world.limiters.get ref := by
      rw [Table.get_modify]
      split
      · next same =>
        subst same
        rw [accounted.occupied.limiter]
        rfl
      · rfl
    apply accounted.of_same
    · rw [World.ring, refill, scheduleFill, setAlarm_blind World.limiters fun _ _ => rfl]
      exact filled
    · rw [World.ring, refill, scheduleFill, setAlarm_blind World.requests fun _ _ => rfl]
  | request other => exact accounted.resume other.index

private theorem abides (ref : Ref Limiter) (threshold : Nat) (sent : List (List Stage))
    (permits : Nat) :
    Abides (fun _ => True) (Accounted ref threshold sent permits) where
  alarms _ _ _ := trivial
  ring _ accounted := accounted.ring _
  off _ accounted := accounted.of_same rfl rfl
  later _ accounted := accounted.of_same rfl rfl

private theorem submit (accounted : world.Accounted ref threshold sent permits)
    (pipeline : Pipeline) (context : Context) :
    (world.submit pipeline context).2.Accounted ref threshold
      (sent ++ [pipeline.stages context]) permits := by
  have still := Still.accompanies.prepare world pipeline context
  have seated := Seated.prepare accounted.occupied pipeline context
  rcases prepared : world.prepare pipeline context with ⟨request, left⟩
  rw [prepared] at still seated
  have rows : (world.submit pipeline context).2.requests = (world.requests.add request).2 := by
    rw [← still.requests]
    simp only [World.submit, prepared]
  have limiters : (world.submit pipeline context).2.limiters = left.limiters := by
    simp only [World.submit, prepared]
  have earlier {place : Nat} (listed : place < sent.length) :
      (world.requests.add request).2.get ⟨place⟩ = world.requests.get ⟨place⟩ :=
    Table.get_add_of_lt _ _ (accounted.size ▸ listed)
  have last : (world.requests.add request).2.get ⟨sent.length⟩ = request := by
    rw [← accounted.size]
    exact Table.get_add_self world.requests request
  have counted : (world.submit pipeline context).2.slots ref (sent ++ [pipeline.stages context]) =
      world.slots ref sent + request.owes ref := by
    rw [slots, List.length_append, List.length_singleton, Finset.sum_range_succ, rows, last,
      List.getElem?_concat_length, Option.getD_some, seated.balanced.slots_eq]
    congr 1
    apply Finset.sum_congr rfl
    intro place member
    have listed := Finset.mem_range.mp member
    rw [earlier listed, List.getElem?_append_left listed]
  constructor
  case size => rw [rows, Table.size_add, accounted.size, List.length_append, List.length_singleton]
  case balanced =>
    intro place stages found
    rw [rows]
    rcases Nat.lt_or_ge place sent.length with listed | beyond
    · rw [List.getElem?_append_left listed] at found
      rw [earlier listed]
      exact accounted.balanced place stages found
    · have bound := (List.getElem?_eq_some_iff.mp found).1
      rw [List.length_append, List.length_singleton] at bound
      obtain rfl : place = sent.length := Nat.le_antisymm (Nat.lt_succ_iff.mp bound) beyond
      rw [List.getElem?_concat_length] at found
      obtain rfl := Option.some.inj found
      rw [last]
      exact seated.balanced
  case occupied =>
    rw [counted, Nat.add_right_comm, Nat.add_comm]
    exact seated.occupied.of_same (by rw [limiters])

end Accounted

end World

namespace Crowd

variable {ref : Ref Limiter} {threshold : Nat} {crowd next : Crowd}

def Accounted (ref : Ref Limiter) (threshold : Nat) (crowd : Crowd) : Prop :=
  crowd.world.Accounted ref threshold crowd.sent crowd.permits

private theorem Accounted.acquire (accounted : crowd.Accounted ref threshold) :
    (crowd.acquire ref).Accounted ref threshold := by
  obtain ⟨size, balanced, occupied⟩ := accounted
  rcases occupied.attempt_cases "" with ⟨after, passed, requests, taken⟩ |
    ⟨after, full, requests, spared⟩
  · have slots : after.slots ref crowd.sent = crowd.world.slots ref crowd.sent := by
      rw [World.slots, requests, World.slots]
    simp only [Crowd.acquire, passed]
    refine ⟨requests ▸ size, requests ▸ balanced, ?_⟩
    rw [slots, ← Nat.add_assoc]
    exact taken
  · simp only [Crowd.acquire, full]
    exact World.Accounted.of_same ⟨size, balanced, occupied⟩
      (spared.limiter.trans occupied.limiter.symm) requests

theorem Accounted.step (accounted : crowd.Accounted ref threshold) (step : Step ref crowd next) :
    next.Accounted ref threshold := by
  have listed {place : Nat} (inside : place < crowd.sent.length) :
      ∃ stages, crowd.sent[place]? = some stages := ⟨_, List.getElem?_eq_getElem inside⟩
  cases step with
  | submit pipeline context => exact World.Accounted.submit accounted pipeline context
  | start inside =>
    obtain ⟨stages, found⟩ := listed inside
    exact World.Accounted.start accounted found
  | answer inside response =>
    obtain ⟨stages, found⟩ := listed inside
    exact World.Accounted.answer accounted found response
  | wake inside => exact World.Accounted.resume accounted _
  | drop inside =>
    obtain ⟨stages, found⟩ := listed inside
    exact World.Accounted.drop accounted found
  | acquire => exact accounted.acquire
  | letGo held =>
    refine ⟨accounted.size, accounted.balanced, ?_⟩
    apply World.Occupied.complete
    have one : crowd.permits - 1 + 1 = crowd.permits := Nat.sub_add_cancel held
    have occupied := accounted.occupied
    rw [← one, ← Nat.add_assoc] at occupied
    exact occupied
  | reach target => exact (World.Accounted.abides _ _ _ _).reach accounted target
  | sleep millis => exact (World.Accounted.abides _ _ _ _).sleepTo accounted _
  | jump millis => exact (World.Accounted.abides _ _ _ _).jump accounted millis
  | elsewhere limiter requests => exact World.Accounted.of_same accounted limiter requests

private theorem Accounted.reached {start : Crowd} (accounted : start.Accounted ref threshold)
    (reached : Relation.ReflTransGen (Step ref) start crowd) : crowd.Accounted ref threshold := by
  induction reached with
  | refl => exact accounted
  | tail _ step ih => exact ih.step step

/-- The slots of a limiter are conserved. From when the limiter is built and nothing is sent, in
whatever order requests pass it and callers take its slots in person, as many are taken as requests
and callers hold. They are never more than its threshold, and none when all have ended. -/
theorem slots_conserved {world : World}
    (built : world.limiters.get ref = .concurrency { threshold })
    (unsent : world.requests.size = 0)
    (reached : Relation.ReflTransGen (Step ref) { world } crowd) :
    let taken := crowd.world.slots ref crowd.sent + crowd.permits
    crowd.world.limiters.get ref = .concurrency { threshold, inFlight := taken } ∧
      taken ≤ threshold ∧
      ((∀ place < crowd.sent.length, (crowd.world.requests.get ⟨place⟩).ended = true) →
        crowd.permits = 0 → taken = 0) := by
  intro taken
  have start : Accounted ref threshold { world } :=
    ⟨unsent, nofun, ⟨built, Nat.zero_le _⟩⟩
  have occupied := (start.reached reached).occupied
  refine ⟨occupied.limiter, occupied.within, fun gone none => ?_⟩
  have free : crowd.world.slots ref crowd.sent = 0 := by
    apply Finset.sum_eq_zero
    intro place member
    rw [Request.slots, gone place (Finset.mem_range.mp member), if_pos rfl]
  exact congrArg₂ (· + ·) free none

def doubled : Pipeline := .stack { limiters := [⟨0⟩, ⟨0⟩] }

/-- A limiter with three slots. A request has passed it twice, and a caller in person has taken the
slot that was left. -/
def full : Crowd :=
  let world : World := { limiters := ⟨#[.concurrency { threshold := 3 }]⟩ }
  acquire ⟨0⟩
    { world := (world.submit doubled {}).2.start ⟨0⟩, sent := [doubled.stages {}] }

theorem slots_conserved_full :
    let world : World := { limiters := ⟨#[.concurrency { threshold := 3 }]⟩ }
    (world.limiters.get ⟨0⟩ = .concurrency { threshold := 3 } ∧ world.requests.size = 0 ∧
        Relation.ReflTransGen (Step ⟨0⟩) { world } full) ∧
      full.world.slots ⟨0⟩ full.sent = 2 ∧ full.permits = 1 ∧
      full.world.limiters.get ⟨0⟩ = .concurrency { threshold := 3, inFlight := 2 + 1 } := by
  intro world
  let sent : Crowd := { world := (world.submit doubled {}).2, sent := [doubled.stages {}] }
  have submitted : Step ⟨0⟩ { world } sent := .submit doubled {}
  have started : Step ⟨0⟩ sent { sent with world := sent.world.start ⟨0⟩ } :=
    .start Nat.zero_lt_one
  have reached : Relation.ReflTransGen (Step ⟨0⟩) { world } full :=
    .tail (.tail (.tail .refl submitted) started) .acquire
  obtain ⟨taken, -⟩ := slots_conserved rfl rfl reached
  exact ⟨⟨rfl, rfl, reached⟩, rfl, rfl, taken⟩

end Crowd

end AdmissionControl
