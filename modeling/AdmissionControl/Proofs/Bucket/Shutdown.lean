import AdmissionControl.Proofs.Bucket.Closed
import Mathlib.Logic.Relation
/-!
Shutting buckets down while others do so too. Whoever shuts a bucket down tells it to stop and waits
for its lock. The first to get the lock waits for the filling to end and closes the bucket; those
who get it later take that for done. So once somebody has returned the bucket is closed and stays as
it is, unless the first gave up while he waited. Then nobody ever closes it.
-/

namespace AdmissionControl

/-- Where a call stands with the limiter that it shuts down next. -/
inductive ShutdownPhase where
  | outside
  | queued
  | joining
  deriving DecidableEq, Repr

/-- A call that shuts limiters down one after the other, as a stack does with its own. It has
returned when none is ahead. -/
structure ShutdownCall where
  covers : List (Ref Limiter)
  ahead : List (Ref Limiter)
  phase : ShutdownPhase := .outside

/-- The call has the lock of a bucket and waits for its filling to end. -/
def ShutdownCall.Joins (ref : Ref Limiter) (call : ShutdownCall) : Prop :=
  call.phase = .joining ∧ call.ahead.head? = some ref

instance (ref : Ref Limiter) : DecidablePred (ShutdownCall.Joins ref) :=
  fun _ => inferInstanceAs (Decidable (_ ∧ _))

/-- The world, and the calls that shut limiters of it down: which buckets were told to stop, which
of them somebody has got hold of to wait for their filling, and whose filling has ended. Those are
forsaken for which somebody gave up waiting. -/
structure Closing where
  world : World
  calls : List ShutdownCall := []
  told : List (Ref Limiter) := []
  claimed : List (Ref Limiter) := []
  ended : List (Ref Limiter) := []
  forsaken : List (Ref Limiter) := []

/-- The filling of a bucket ends: it waits for no moment any more. -/
def World.endFilling (world : World) (ref : Ref Limiter) : World :=
  { world with alarms := world.alarms.filter (·.sleeper ≠ .bucket ref) }

namespace Closing

inductive Turn (closing : Closing) (ref : Ref Limiter) :
    ShutdownCall → ShutdownCall → Closing → Prop where
  | skip {covers rest : List (Ref Limiter)}
    (other : (closing.world.limiters.get ref).bucket? = none) :
    Turn closing ref ⟨covers, ref :: rest, .outside⟩ ⟨covers, rest, .outside⟩ closing
  | tell {covers rest : List (Ref Limiter)}
    (bucket : (closing.world.limiters.get ref).bucket? ≠ none) :
    Turn closing ref ⟨covers, ref :: rest, .outside⟩ ⟨covers, ref :: rest, .queued⟩
      { closing with told := ref :: closing.told }
  | claim {covers rest : List (Ref Limiter)}
    (free : ∀ call ∈ closing.calls, ¬ call.Joins ref) (unclaimed : ref ∉ closing.claimed) :
    Turn closing ref ⟨covers, ref :: rest, .queued⟩ ⟨covers, ref :: rest, .joining⟩
      { closing with claimed := ref :: closing.claimed }
  | follow {covers rest : List (Ref Limiter)}
    (free : ∀ call ∈ closing.calls, ¬ call.Joins ref) (claimed : ref ∈ closing.claimed) :
    Turn closing ref ⟨covers, ref :: rest, .queued⟩ ⟨covers, rest, .outside⟩ closing
  | close {covers rest : List (Ref Limiter)} (ended : ref ∈ closing.ended) :
    Turn closing ref ⟨covers, ref :: rest, .joining⟩ ⟨covers, rest, .outside⟩
      { closing with world := closing.world.shutdown ref }

/-- Somebody begins to shut limiters down, or does what is next, or gives up, or a filling that was
told to stop does so. Who gives up lets go of the lock, and nobody else is to wait in his place. -/
inductive Stops (closing : Closing) : Closing → Prop where
  | call (covers : List (Ref Limiter)) :
    Stops closing { closing with calls := closing.calls ++ [{ covers, ahead := covers }] }
  | turn {before after : List ShutdownCall} {one other : ShutdownCall} {ref : Ref Limiter}
    {next : Closing} (listed : closing.calls = before ++ one :: after)
    (turn : closing.Turn ref one other next) :
    Stops closing { next with calls := before ++ other :: after }
  | giveUp {before after : List ShutdownCall} {one : ShutdownCall}
    (listed : closing.calls = before ++ one :: after) (underway : one.ahead ≠ [])
    (apart : one.phase ≠ .joining) : Stops closing { closing with calls := before ++ after }
  | forsake {before after : List ShutdownCall} {covers rest : List (Ref Limiter)}
    {ref : Ref Limiter}
    (listed : closing.calls = before ++ ⟨covers, ref :: rest, .joining⟩ :: after) :
    Stops closing { closing with calls := before ++ after, forsaken := ref :: closing.forsaken }
  | ends {ref : Ref Limiter} (told : ref ∈ closing.told) (running : ref ∉ closing.ended) :
    Stops closing
      { closing with ended := ref :: closing.ended, world := closing.world.endFilling ref }

inductive Step (closing : Closing) : Closing → Prop where
  | stops {next : Closing} (stops : closing.Stops next) : Step closing next
  | happens {after : World} (happens : closing.world.Happens after) :
    Step closing { closing with world := after }

end Closing

namespace World

private theorem shutdown_stopped (world : World) (ref : Ref Limiter) :
    ((world.shutdown ref).limiters.get ref).stopped = true := by
  unfold shutdown
  cases bucket : (world.limiters.get ref).bucket? with
  | none =>
    simp only [bucket]
    rw [Limiter.stopped, bucket, Option.all_none]
  | some pool =>
    simp only [bucket]
    split
    · next shut => rw [Limiter.stopped, bucket, Option.all_some, shut]
    · rw [record, setLimiter, Table.get_set_self]
      cases world.limiters.get ref <;> rfl

private theorem shutdown_apart (world : World) {ref other : Ref Limiter} (apart : ref ≠ other) :
    (world.shutdown ref).limiters.get other = world.limiters.get other := by
  unfold shutdown
  simp only []
  split
  · rfl
  · split
    · rfl
    · rw [record, setLimiter, Table.get_set, if_neg apart]

private theorem closed_shutdown (world : World) {ref : Ref Limiter}
    (bucket : (world.limiters.get ref).bucket? ≠ none) (covered : Ref Limiter) :
    ((world.shutdown covered).limiters.get ref).closed =
      if covered = ref then true else (world.limiters.get ref).closed := by
  by_cases here : covered = ref
  · subst here
    have settles := (Retains.shutdown world covered).limiters covered
    rw [if_pos rfl]
    exact Limiter.closed_iff.mpr ⟨mt settles.bucket?_eq_none.mp bucket,
      world.shutdown_stopped covered⟩
  · rw [world.shutdown_apart here, if_neg here]

end World

namespace Closing

variable {closing next : Closing} {ref : Ref Limiter} {one other : ShutdownCall}

private theorem Turn.retains (turn : closing.Turn ref one other next) :
    closing.world.Retains next.world := by
  cases turn with
  | close ended => exact .shutdown _ _
  | _ => exact .refl _

private theorem Turn.forsaken (turn : closing.Turn ref one other next) :
    next.forsaken = closing.forsaken := by
  cases turn <;> rfl

private theorem Stops.retains (stops : closing.Stops next) : closing.world.Retains next.world := by
  cases stops with
  | turn listed turn => exact turn.retains
  | ends told running =>
    refine World.Upholds.retains ?_
    exact .of_same rfl rfl
  | _ => exact .refl _

private theorem Step.retains (step : closing.Step next) : closing.world.Retains next.world := by
  cases step with
  | stops stops => exact stops.retains
  | happens happens => exact happens.upholds.retains

theorem retains_of_reached (reached : Relation.ReflTransGen Step closing next) :
    closing.world.Retains next.world := by
  induction reached with
  | refl => exact .refl _
  | tail _ step ih => exact ih.trans step.retains

/-! ### Who has got hold of a bucket -/

@[simp] theorem joins_joining {covered : Ref Limiter} {covers rest : List (Ref Limiter)} :
    ShutdownCall.Joins ref ⟨covers, covered :: rest, .joining⟩ ↔ covered = ref := by
  simp [ShutdownCall.Joins]

private theorem not_joins {call : ShutdownCall} (apart : call.phase ≠ .joining) :
    ¬ call.Joins ref :=
  fun joins => apart joins.1

/-- What has become of a bucket that was open. Nobody has got hold of it, or one call has. That call
waits for the filling, or has closed the bucket, or has forsaken it. -/
structure Held (ref : Ref Limiter) (closing : Closing) : Prop where
  bucket : (closing.world.limiters.get ref).bucket? ≠ none
  once : closing.claimed.count ref ≤ 1
  balance : closing.calls.countP (·.Joins ref) + closing.forsaken.count ref +
    (closing.world.limiters.get ref).closed.toNat = closing.claimed.count ref

private theorem Held.turn (held : closing.Held ref) {covered : Ref Limiter}
    {before after : List ShutdownCall} (listed : closing.calls = before ++ one :: after)
    (turn : closing.Turn covered one other next) :
    Held ref { next with calls := before ++ other :: after } := by
  have balance := held.balance
  rw [listed, List.countP_append, List.countP_cons] at balance
  constructor
  case bucket => exact mt (turn.retains.limiters ref).bucket?_eq_none.mp held.bucket
  case once =>
    cases turn with
    | claim free unclaimed =>
      rw [List.count_cons]
      split
      · next here =>
        obtain rfl := beq_iff_eq.mp here
        exact Nat.le_of_eq (congrArg (· + 1) (List.count_eq_zero.mpr unclaimed))
      · exact held.once
    | _ => exact held.once
  case balance =>
    rw [List.countP_append, List.countP_cons]
    cases turn with
    | skip _ | tell _ | follow _ _ => simpa [not_joins] using balance
    | claim free unclaimed =>
      simp [List.count_cons, not_joins] at balance ⊢
      omega
    | close ended =>
      rw [World.closed_shutdown _ held.bucket]
      by_cases here : covered = ref
      · -- It was claimed but once, and that by the call that closes it.
        have once := held.once
        simp only [joins_joining, here, decide_true, if_true] at balance
        have opened : (closing.world.limiters.get ref).closed.toNat = 0 := by omega
        simp [here, not_joins]
        omega
      · simpa [here, not_joins] using balance

private theorem Held.stops (held : closing.Held ref) (stops : closing.Stops next) :
    next.Held ref := by
  cases stops with
  | call covers => exact ⟨held.bucket, held.once, by simpa [not_joins] using held.balance⟩
  | turn listed turn => exact held.turn listed turn
  | ends told running => exact ⟨held.bucket, held.once, held.balance⟩
  | @giveUp before after one listed underway apart =>
    refine ⟨held.bucket, held.once, ?_⟩
    have balance := held.balance
    rw [listed, List.countP_append, List.countP_cons] at balance
    rw [List.countP_append]
    simpa [not_joins apart] using balance
  | @forsake before after covers rest forsaken listed =>
    refine ⟨held.bucket, held.once, ?_⟩
    have balance := held.balance
    rw [listed, List.countP_append, List.countP_cons] at balance
    rw [List.countP_append, List.count_cons]
    simp at balance ⊢
    omega

theorem Held.step (held : closing.Held ref) (step : closing.Step next) : next.Held ref := by
  cases step with
  | stops stops => exact held.stops stops
  | happens happens =>
    have becomes := happens.upholds.limiters ref
    refine ⟨mt becomes.bucket?_eq_none.mp held.bucket, held.once, ?_⟩
    rw [becomes.closed]
    exact held.balance

theorem held_of_reached {world : World} (bucket : (world.limiters.get ref).bucket? ≠ none)
    (opened : (world.limiters.get ref).closed = false)
    (reached : Relation.ReflTransGen Step { world } closing) : closing.Held ref := by
  induction reached with
  | refl => exact ⟨bucket, Nat.zero_le _, by simp [opened]⟩
  | tail _ step ih => exact ih.step step

private theorem Held.opened (held : closing.Held ref) (forsaken : ref ∈ closing.forsaken) :
    (closing.world.limiters.get ref).closed = false := by
  have some := List.count_pos_iff.mpr forsaken
  have once := held.once
  have balance := held.balance
  cases closed : (closing.world.limiters.get ref).closed with
  | false => rfl
  | true =>
    rw [closed, Bool.toNat_true] at balance
    omega

/-- Where nobody waits for the filling any more, the bucket is closed or forsaken. -/
theorem Held.closed_or_forsaken (held : closing.Held ref) (claimed : ref ∈ closing.claimed)
    (free : ∀ call ∈ closing.calls, ¬ call.Joins ref) :
    (closing.world.limiters.get ref).closed = true ∨ ref ∈ closing.forsaken := by
  have some := List.count_pos_iff.mpr claimed
  have balance := held.balance
  have none : closing.calls.countP (·.Joins ref) = 0 :=
    List.countP_eq_zero.mpr fun call listed => by simpa using free call listed
  cases closed : (closing.world.limiters.get ref).closed with
  | true => exact .inl rfl
  | false =>
    rw [none, closed, Bool.toNat_false] at balance
    exact .inr (List.count_pos_iff.mp (by omega))

/-- Who has come past a bucket leaves it closed, or forsaken. -/
def Passed (ref : Ref Limiter) (closing : Closing) : Prop :=
  ∀ call ∈ closing.calls, ref ∈ call.covers → ref ∈ call.ahead ∨
    (closing.world.limiters.get ref).closed = true ∨ ref ∈ closing.forsaken

private theorem listed_of_rest {before after : List ShutdownCall} {call : ShutdownCall}
    (listed : closing.calls = before ++ one :: after) (inside : call ∈ before ++ after) :
    call ∈ closing.calls := by
  rw [listed]
  exact List.mem_append.mpr ((List.mem_append.mp inside).imp_right (List.mem_cons_of_mem _))

private theorem Passed.turn (passed : closing.Passed ref) (held : closing.Held ref)
    {covered : Ref Limiter} {before after : List ShutdownCall}
    (listed : closing.calls = before ++ one :: after)
    (turn : closing.Turn covered one other next) :
    Passed ref { next with calls := before ++ other :: after } := by
  have still : (closing.world.limiters.get ref).closed = true ∨ ref ∈ closing.forsaken →
      (next.world.limiters.get ref).closed = true ∨ ref ∈ next.forsaken := by
    rintro (closed | forsaken)
    · exact .inl (turn.retains.closed closed)
    · exact .inr (turn.forsaken ▸ forsaken)
  have own := passed one (by simp [listed])
  have others {call : ShutdownCall} (inside : call ∈ before ++ after) (covers : ref ∈ call.covers) :=
    (passed call (listed_of_rest listed inside) covers).imp_right still
  intro call inside covers
  rcases List.mem_append.mp inside with front | back
  · exact others (List.mem_append_left _ front) covers
  rcases List.mem_cons.mp back with rfl | back
  case inr => exact others (List.mem_append_right _ back) covers
  -- Only what the call leaves behind has to be looked at: it is no bucket, or closed or forsaken.
  cases turn with
  | tell bucket => exact (own covers).imp_right still
  | claim free unclaimed => exact (own covers).imp_right still
  | skip unfilled =>
    refine (own covers).imp_left fun ahead => ?_
    rcases List.mem_cons.mp ahead with rfl | later
    · exact absurd unfilled held.bucket
    · exact later
  | follow free claimed =>
    rcases own covers with ahead | past
    · rcases List.mem_cons.mp ahead with rfl | later
      · exact .inr (held.closed_or_forsaken claimed free)
      · exact .inl later
    · exact .inr past
  | close ended =>
    rcases own covers with ahead | past
    · rcases List.mem_cons.mp ahead with rfl | later
      · refine .inr (.inl ?_)
        rw [World.closed_shutdown _ held.bucket, if_pos rfl]
      · exact .inl later
    · exact .inr (still past)

theorem Passed.step (passed : closing.Passed ref) (held : closing.Held ref)
    (step : closing.Step next) : next.Passed ref := by
  cases step with
  | happens happens =>
    intro call listed covers
    exact (passed call listed covers).imp_right (.imp_left happens.upholds.closed)
  | stops stops =>
    cases stops with
    | turn listed turn => exact passed.turn held listed turn
    | ends told running => exact passed
    | call covers =>
      intro call listed covered
      rcases List.mem_append.mp listed with earlier | last
      · exact passed call earlier covered
      · obtain rfl := List.mem_singleton.mp last
        exact .inl covered
    | giveUp listed underway apart =>
      exact fun call inside => passed call (listed_of_rest listed inside)
    | forsake listed =>
      exact fun call inside covers => (passed call (listed_of_rest listed inside) covers).imp_right
        (.imp_right (List.mem_cons_of_mem _))

theorem passed_of_reached {world : World} (bucket : (world.limiters.get ref).bucket? ≠ none)
    (opened : (world.limiters.get ref).closed = false)
    (reached : Relation.ReflTransGen Step { world } closing) : closing.Passed ref := by
  induction reached with
  | refl => exact nofun
  | tail earlier step ih => exact ih.step (held_of_reached bucket opened earlier) step

/-- A call that nobody disturbs shuts the bucket down at one go. -/
theorem shutdown_alone (world : World) (bucket : (world.limiters.get ref).bucket? ≠ none) :
    Relation.ReflTransGen Step { world }
      { world := (world.endFilling ref).shutdown ref, calls := [⟨[ref], [], .outside⟩]
        told := [ref], claimed := [ref], ended := [ref] } := by
  let called : Closing := { world, calls := [⟨[ref], [ref], .outside⟩] }
  let told : Closing := { world, calls := [⟨[ref], [ref], .queued⟩], told := [ref] }
  let claimed : Closing :=
    { world, calls := [⟨[ref], [ref], .joining⟩], told := [ref], claimed := [ref] }
  let ended : Closing := { claimed with world := world.endFilling ref, ended := [ref] }
  have calls : Step { world } called := .stops (.call [ref])
  have tells : Step called told := .stops (@Stops.turn _ [] [] _ _ _ _ rfl (.tell bucket))
  have free : ∀ call ∈ told.calls, ¬ call.Joins ref := by
    intro call listed joins
    obtain rfl := List.mem_singleton.mp listed
    cases joins.1
  have claims : Step told claimed :=
    .stops (@Stops.turn _ [] [] _ _ _ _ rfl (.claim free List.not_mem_nil))
  have ends : Step claimed ended := .stops (.ends (List.mem_singleton_self _) List.not_mem_nil)
  refine .tail (.tail (.tail (.tail (.single calls) tells) claims) ends) ?_
  exact .stops (@Stops.turn _ [] [] _ _ _ _ rfl (.close (List.mem_singleton_self _)))

end Closing

/-! ### Other limiters -/

namespace World

variable {world after : World} {ref other : Ref Limiter}

structure Surrounds (world after : World) : Prop where
  now : after.now = world.now
  tokens : after.tokens = world.tokens
  clocks : after.clocks = world.clocks
  stores : after.stores = world.stores

namespace Surrounds

private theorem read (same : world.Surrounds after) (clock : Ref Clock) :
    (after.read clock).1 = (world.read clock).1 ∧
      (world.read clock).2.Surrounds (after.read clock).2 := by
  have one := (keptWithin world.steps).read world clock
  have two := (keptWithin after.steps).read after clock
  have shown (world : World) : (world.read clock).1 = (world.clocks.get clock).now :=
    readWithin_fst _ _ _
  refine ⟨by rw [shown, shown, same.clocks], ?_⟩
  exact ⟨two.now.trans (same.now.trans one.now.symm),
    two.tokens.trans (same.tokens.trans one.tokens.symm),
    two.clocks.trans (same.clocks.trans one.clocks.symm),
    two.stores.trans (same.stores.trans one.stores.symm)⟩

private theorem consult (same : world.Surrounds after) (store : Ref Store)
    (request : WindowRequest) :
    (after.consult store request).1 = (world.consult store request).1 := by
  unfold World.consult
  rw [same.stores]
  cases world.stores.get store with
  | scripted script => rfl
  | memory memory clock =>
    cases request.now with
    | some now => rfl
    | none => simp only [(same.read clock).1]

private theorem beginConsultation (same : world.Surrounds after) (limiter : SlidingWindow)
    (store : Ref Store) (clock : Option (Ref Clock)) (key : String) :
    (after.beginConsultation limiter store clock key).1 =
      (world.beginConsultation limiter store clock key).1 := by
  have still (world : World) (now : Option Nat) :
      (world.consult store (limiter.request key now)).2.now = world.now :=
    (Still.consult world store _).now
  cases clock with
  | none => simp only [World.beginConsultation, same.consult, still, same.now]
  | some clock =>
    obtain ⟨time, left⟩ := same.read clock
    simp only [World.beginConsultation, time, left.consult, still, left.now]

/-- A limiter's answer is a matter of itself and of what is around it. -/
theorem ask (same : world.Surrounds after)
    (row : after.limiters.get ref = world.limiters.get ref) (context : Context) :
    (after.ask ref context).1 = (world.ask ref context).1 := by
  unfold World.ask
  rw [same.tokens, same.now, row]
  cases context.abandoned? world.tokens world.now with
  | some reason => rfl
  | none =>
    cases world.limiters.get ref with
    | fixedWindow limiter clock => simp only [(same.read clock).1]
    | slidingWindow limiter store clock =>
      have begun := same.beginConsultation limiter store clock context.windowKey
      have one := (Still.beginConsultation world limiter store clock context.windowKey).now
      have two := (Still.beginConsultation after limiter store clock context.windowKey).now
      have weighed (world : World) (answer : StoreAnswer) :
          (world.weigh limiter context.windowKey answer).1 = limiter.weigh answer := by
        cases answer <;> rfl
      simp only [begun, one, two, same.now]
      split
      · rfl
      · simp only [weighed]
    | _ => rfl

private theorem attempt (same : world.Surrounds after)
    (row : after.limiters.get ref = world.limiters.get ref) (key : String) :
    (after.attempt ref key).1 = (world.attempt ref key).1 := by
  unfold World.attempt
  rw [row]
  cases world.limiters.get ref with
  | fixedWindow limiter clock => simp only [(same.read clock).1]
  | slidingWindow limiter store clock => simp only [World.check, same.beginConsultation]
  | _ => rfl

private theorem shutdown (world : World) (ref : Ref Limiter) :
    world.Surrounds (world.shutdown ref) := by
  unfold World.shutdown
  simp only []
  split
  · exact ⟨rfl, rfl, rfl, rfl⟩
  · split <;> exact ⟨rfl, rfl, rfl, rfl⟩

end Surrounds

private theorem shutdown_other (world : World)
    (unfilled : (world.limiters.get other).bucket? = none) (ref : Ref Limiter) :
    (world.shutdown ref).limiters.get other = world.limiters.get other := by
  by_cases same : ref = other
  · subst same
    unfold shutdown
    simp only [unfilled]
  · exact world.shutdown_apart same

/-- A limiter answers as before, whoever asks it or tries to pass it. -/
structure Answers (other : Ref Limiter) (world after : World) : Prop where
  row : after.limiters.get other = world.limiters.get other
  ask : ∀ context, (after.ask other context).1 = (world.ask other context).1
  attempt : ∀ key, (after.attempt other key).1 = (world.attempt other key).1

private theorem Surrounds.answers (same : world.Surrounds after)
    (row : after.limiters.get other = world.limiters.get other) : Answers other world after :=
  ⟨row, same.ask row, same.attempt row⟩

theorem Answers.refl (other : Ref Limiter) (world : World) : Answers other world world :=
  ⟨rfl, fun _ => rfl, fun _ => rfl⟩

theorem Answers.trans {middle : World} (first : Answers other world middle)
    (second : Answers other middle after) : Answers other world after where
  row := second.row.trans first.row
  ask context := (second.ask context).trans (first.ask context)
  attempt key := (second.attempt key).trans (first.attempt key)

/-- A bucket that was shut down stays as it was. Whoever takes from it is refused without a hint,
unless the caller has gone, and nothing that is done with it changes anything. -/
structure StaysShut (ref : Ref Limiter) (limiter : Limiter) (world : World) : Prop where
  row : world.limiters.get ref = limiter
  attempt : ∀ key, world.attempt ref key = (.refused .shutDown, world)
  decision : ∀ context, world.decisionOf ref context =
    (.refused ((context.abandoned? world.tokens world.now).getD .shutDown) none, world)
  refill : world.refill ref = world
  shutdown : world.shutdown ref = world

private theorem StaysShut.of_closed (closed : (world.limiters.get ref).closed = true) :
    world.StaysShut ref (world.limiters.get ref) where
  row := rfl
  attempt := attempt_closed closed
  decision := decisionOf_closed closed
  refill := refill_closed closed
  shutdown := shutdown_closed closed

end World

namespace Closing

variable {closing returned later next : Closing} {ref : Ref Limiter} {call one other : ShutdownCall}

private theorem Stops.answers (stops : closing.Stops next) {other : Ref Limiter}
    (unfilled : (closing.world.limiters.get other).bucket? = none) :
    World.Answers other closing.world next.world := by
  cases stops with
  | ends told running => exact World.Surrounds.answers ⟨rfl, rfl, rfl, rfl⟩ rfl
  | turn listed turn =>
    cases turn with
    | close ended =>
      exact (World.Surrounds.shutdown _ _).answers (closing.world.shutdown_other unfilled _)
    | _ => exact .refl _ _
  | _ => exact .refl _ _

private theorem answers_of_stops {other : Ref Limiter}
    (unfilled : (closing.world.limiters.get other).bucket? = none)
    (stops : Relation.ReflTransGen Stops closing next) :
    World.Answers other closing.world next.world := by
  induction stops with
  | refl => exact .refl _ _
  | tail _ last ih =>
    refine ih.trans (last.answers ?_)
    rw [ih.row, unfilled]

theorem forsaken_of_reached (onward : Relation.ReflTransGen Step closing next)
    (forsaken : ref ∈ closing.forsaken) : ref ∈ next.forsaken := by
  induction onward with
  | refl => exact forsaken
  | tail _ step ih =>
    cases step with
    | happens happens => exact ih
    | stops stops =>
      cases stops with
      | turn listed turn => exact turn.forsaken ▸ ih
      | forsake listed => exact List.mem_cons_of_mem _ ih
      | _ => exact ih

private theorem Turn.world_of_closed (turn : closing.Turn ref one other next)
    (closed : (closing.world.limiters.get ref).closed = true) : next.world = closing.world := by
  cases turn with
  | close ended => exact World.shutdown_closed closed
  | _ => rfl

/-! ### What has returned -/

/-- Who has a bucket ahead that is closed is never called, whatever happens. -/
theorem never_called (closed : (closing.world.limiters.get ref).closed = true)
    {request : Ref Request} (short : (closing.world.requests.get request).ShortOf ref)
    (onward : Relation.ReflTransGen Step closing next) :
    (next.world.requests.get request).called = false :=
  ((retains_of_reached onward).requests ref request closed short).1

private theorem submitted_never_called (closed : (closing.world.limiters.get ref).closed = true)
    {pipeline : Pipeline} {context context' : Context}
    (inside : .limiter ref context' ∈ pipeline.stages context) {sent : Ref Request} {world : World}
    (submitted : closing.world.submit pipeline context = (sent, world))
    (onward : Relation.ReflTransGen Step { closing with world } next) :
    (next.world.requests.get sent).called = false := by
  have still := (World.Upholds.submit closing.world pipeline context).closed closed
  have short := World.submit_short closing.world inside
  rw [submitted] at still short
  exact never_called still short onward

/-- A bucket is of no use any more. It stays as it was, and shutting it down again changes nothing.
No request gets to its handler that has it ahead, or that is sent through a pipeline with it. The
limiters beside it answer as they would if it were any other. -/
structure Spent (ref : Ref Limiter) (limiter : Limiter) (closing : Closing) : Prop where
  shut : closing.world.StaysShut ref limiter
  turns : ∀ {one other : ShutdownCall} {next : Closing}, closing.Turn ref one other next →
    next.world = closing.world
  underway : ∀ {request : Ref Request} {next : Closing},
    (closing.world.requests.get request).ShortOf ref → Relation.ReflTransGen Step closing next →
      (next.world.requests.get request).called = false
  submitted : ∀ {pipeline : Pipeline} {context context' : Context} {sent : Ref Request}
    {world : World} {next : Closing}, .limiter ref context' ∈ pipeline.stages context →
      closing.world.submit pipeline context = (sent, world) →
      Relation.ReflTransGen Step { closing with world } next →
        (next.world.requests.get sent).called = false
  beside : ∀ {other : Ref Limiter}, other ≠ ref → ∀ limiter : Limiter,
    World.Answers other closing.world (closing.world.setLimiter ref limiter)

private theorem Spent.of_closed (closed : (closing.world.limiters.get ref).closed = true) :
    closing.Spent ref (closing.world.limiters.get ref) where
  shut := .of_closed closed
  turns turn := turn.world_of_closed closed
  underway short onward := never_called closed short onward
  submitted inside submitted onward := submitted_never_called closed inside submitted onward
  beside apart limiter := by
    refine World.Surrounds.answers ⟨rfl, rfl, rfl, rfl⟩ ?_
    rw [World.setLimiter, Table.get_set, if_neg (Ne.symm apart)]

/-- Nobody has shut the bucket down to begin with. Once a call has returned that was to do so, the
bucket is of no use any more and stays as it was at that moment, whatever happens and however many
others shut it down as well, if and only if nobody has forsaken it. A bucket that is forsaken is
never closed. Limiters that are no buckets answer at all times as if nobody shut anything down. -/
theorem shutdown_absorbs_iff {world : World} (bucket : (world.limiters.get ref).bucket? ≠ none)
    (opened : (world.limiters.get ref).closed = false)
    (reached : Relation.ReflTransGen Step { world } returned) (listed : call ∈ returned.calls)
    (done : call.ahead = []) (covered : ref ∈ call.covers) :
    ((∀ later, Relation.ReflTransGen Step returned later →
        later.Spent ref (returned.world.limiters.get ref)) ↔ ref ∉ returned.forsaken) ∧
      (ref ∈ returned.forsaken → ∀ later, Relation.ReflTransGen Step returned later →
        (later.world.limiters.get ref).closed = false) ∧
      ∀ {closing next : Closing} {other : Ref Limiter},
        (closing.world.limiters.get other).bucket? = none →
        Relation.ReflTransGen Stops closing next →
          World.Answers other closing.world next.world := by
  have held := held_of_reached bucket opened reached
  refine ⟨⟨fun spent forsaken => ?_, fun kept later onward => ?_⟩, ?_, answers_of_stops⟩
  · -- To shut it down once more would close it, and that would be a change.
    have closed := returned.world.closed_shutdown held.bucket ref
    rw [(spent returned .refl).shut.shutdown, held.opened forsaken] at closed
    simp at closed
  · have closed : (returned.world.limiters.get ref).closed = true := by
      rcases passed_of_reached bucket opened reached call listed covered with ahead | past
      · rw [done] at ahead
        cases ahead
      · exact past.resolve_right kept
    have retains := retains_of_reached onward
    rw [← (retains.limiters ref).still closed]
    exact .of_closed (retains.closed closed)
  · intro forsaken later onward
    exact (held_of_reached bucket opened (reached.trans onward)).opened
      (forsaken_of_reached onward forsaken)

/-- A limit of concurrency, and a bucket of three that holds one drop and is filled every ten
milliseconds. -/
def guarded : World where
  limiters := ⟨#[.concurrency { threshold := 2 },
    .tokenBucket ⟨3, .ofMillis 10, by decide, 1, 10 * Duration.nanosPerMilli, false⟩]⟩
  alarms := [⟨10, .bucket ⟨1⟩⟩]

/-- The bucket is shut down by one call, and both limiters by another. The second has got hold of
the bucket, whose filling has ended. A jump then goes past two moments at which a drop was due. -/
def overtaken : Closing where
  world := (guarded.endFilling ⟨1⟩).jump 25
  calls := [⟨[⟨1⟩], [⟨1⟩], .queued⟩, ⟨[⟨0⟩, ⟨1⟩], [⟨1⟩], .joining⟩]
  told := [⟨1⟩, ⟨1⟩]
  claimed := [⟨1⟩]
  ended := [⟨1⟩]

def oneReturned : Closing :=
  { overtaken with
    world := overtaken.world.shutdown ⟨1⟩
    calls := [⟨[⟨1⟩], [⟨1⟩], .queued⟩, ⟨[⟨0⟩, ⟨1⟩], [], .outside⟩] }

def bothReturned : Closing :=
  { oneReturned with
    world := oneReturned.world.jump 100
    calls := [⟨[⟨1⟩], [], .outside⟩, ⟨[⟨0⟩, ⟨1⟩], [], .outside⟩] }

private theorem overtaken_reached : Relation.ReflTransGen Step { world := guarded } overtaken := by
  let one : ShutdownCall := ⟨[⟨1⟩], [⟨1⟩], .outside⟩
  let both : ShutdownCall := ⟨[⟨0⟩, ⟨1⟩], [⟨0⟩, ⟨1⟩], .outside⟩
  let come : Closing := { world := guarded, calls := [one, both] }
  let told : Closing :=
    { world := guarded, calls := [{ one with phase := .queued }, both], told := [⟨1⟩] }
  let past : Closing :=
    { told with calls := [{ one with phase := .queued }, { both with ahead := [⟨1⟩] }] }
  let queued : Closing :=
    { world := guarded, told := [⟨1⟩, ⟨1⟩]
      calls := [{ one with phase := .queued }, { both with ahead := [⟨1⟩], phase := .queued }] }
  let joining : Closing :=
    { queued with
      claimed := [⟨1⟩]
      calls := [{ one with phase := .queued }, { both with ahead := [⟨1⟩], phase := .joining }] }
  let ended : Closing := { joining with ended := [⟨1⟩], world := guarded.endFilling ⟨1⟩ }
  have first : Step { world := guarded } { world := guarded, calls := [one] } :=
    .stops (.call [⟨1⟩])
  have second : Step { world := guarded, calls := [one] } come := .stops (.call [⟨0⟩, ⟨1⟩])
  have tells : Step come told := .stops (@Stops.turn _ [] [both] _ _ ⟨1⟩ _ rfl (.tell (by decide)))
  have skips : Step told past := .stops (@Stops.turn _ [_] [] _ _ ⟨0⟩ _ rfl (.skip rfl))
  have tellsToo : Step past queued :=
    .stops (@Stops.turn _ [_] [] _ _ ⟨1⟩ _ rfl (.tell (by decide)))
  have free : ∀ call ∈ queued.calls, ¬ call.Joins ⟨1⟩ := by
    simp [queued, ShutdownCall.Joins]
  have claims : Step queued joining :=
    .stops (@Stops.turn _ [_] [] _ _ ⟨1⟩ _ rfl (.claim free List.not_mem_nil))
  have ends : Step joining ended := .stops (.ends List.mem_cons_self List.not_mem_nil)
  have jumps : Step ended overtaken := .happens (.jump 25)
  exact .tail (.tail (.tail (.tail (.tail (.tail (.tail (.single first) second) tells) skips)
    tellsToo) claims) ends) jumps

private theorem oneReturned_reached :
    Relation.ReflTransGen Step { world := guarded } oneReturned := by
  refine overtaken_reached.tail (.stops ?_)
  exact @Stops.turn _ [_] [] _ _ ⟨1⟩ _ rfl (.close List.mem_cons_self)

private theorem bothReturned_reached : Relation.ReflTransGen Step oneReturned bothReturned := by
  have free : ∀ call ∈ oneReturned.calls, ¬ call.Joins ⟨1⟩ := by
    simp [oneReturned, ShutdownCall.Joins]
  have follows := @Stops.turn oneReturned [] [_] _ _ ⟨1⟩ _ rfl (.follow free List.mem_cons_self)
  exact .tail (.single (.stops follows)) (.happens (.jump 100))

/-- Nobody gave up, so the bucket keeps the drop that it had, and neither of the jumps adds another. -/
theorem bothReturned_spent :
    Relation.ReflTransGen Step { world := guarded } oneReturned ∧
      Relation.ReflTransGen Step oneReturned bothReturned ∧ ⟨1⟩ ∉ oneReturned.forsaken ∧
      (oneReturned.world.limiters.get ⟨1⟩).bucket?.map Bucket.level = some 1 ∧
      bothReturned.Spent ⟨1⟩ (oneReturned.world.limiters.get ⟨1⟩) := by
  have jumped : (guarded.endFilling ⟨1⟩).jump 25 = { guarded with alarms := [], now := 25 } := by
    simp [World.jump, World.settle, World.endFilling, guarded]
  have level : (oneReturned.world.limiters.get ⟨1⟩).bucket?.map Bucket.level = some 1 := by
    simp only [oneReturned, overtaken, jumped]
    rfl
  have kept : ⟨1⟩ ∉ oneReturned.forsaken := List.not_mem_nil
  have bucket : (guarded.limiters.get ⟨1⟩).bucket? ≠ none := by decide
  have absorbs := shutdown_absorbs_iff bucket rfl oneReturned_reached
    (List.mem_cons_of_mem _ List.mem_cons_self) rfl (List.mem_cons_of_mem _ List.mem_cons_self)
  exact ⟨oneReturned_reached, bothReturned_reached, kept, level,
    absorbs.1.mpr kept _ bothReturned_reached⟩

/-- A call gave up while it waited for the filling of the bucket to end. The next one, which shuts
both limiters down, takes the bucket for closed and returns. -/
def forsakenReturned : Closing where
  world := guarded.endFilling ⟨1⟩
  calls := [⟨[⟨0⟩, ⟨1⟩], [], .outside⟩]
  told := [⟨1⟩, ⟨1⟩]
  claimed := [⟨1⟩]
  ended := [⟨1⟩]
  forsaken := [⟨1⟩]

private theorem forsakenReturned_reached :
    Relation.ReflTransGen Step { world := guarded } forsakenReturned := by
  let both : ShutdownCall := ⟨[⟨0⟩, ⟨1⟩], [⟨0⟩, ⟨1⟩], .outside⟩
  let called : Closing := { world := guarded, calls := [⟨[⟨1⟩], [⟨1⟩], .outside⟩] }
  let told : Closing := { called with calls := [⟨[⟨1⟩], [⟨1⟩], .queued⟩], told := [⟨1⟩] }
  let joining : Closing :=
    { told with calls := [⟨[⟨1⟩], [⟨1⟩], .joining⟩], claimed := [⟨1⟩] }
  let alone : Closing := { joining with calls := [], forsaken := [⟨1⟩] }
  let ended : Closing := { alone with ended := [⟨1⟩], world := guarded.endFilling ⟨1⟩ }
  let again : Closing := { ended with calls := [both] }
  let past : Closing := { again with calls := [{ both with ahead := [⟨1⟩] }] }
  let queued : Closing :=
    { past with calls := [{ both with ahead := [⟨1⟩], phase := .queued }], told := [⟨1⟩, ⟨1⟩] }
  have calls : Step { world := guarded } called := .stops (.call [⟨1⟩])
  have tells : Step called told := .stops (@Stops.turn _ [] [] _ _ ⟨1⟩ _ rfl (.tell (by decide)))
  have free : ∀ call ∈ told.calls, ¬ call.Joins ⟨1⟩ := by decide
  have claims : Step told joining :=
    .stops (@Stops.turn _ [] [] _ _ ⟨1⟩ _ rfl (.claim free List.not_mem_nil))
  have forsakes : Step joining alone := .stops (@Stops.forsake _ [] [] _ _ _ rfl)
  have ends : Step alone ended := .stops (.ends List.mem_cons_self List.not_mem_nil)
  have callsToo : Step ended again := .stops (.call [⟨0⟩, ⟨1⟩])
  have skips : Step again past := .stops (@Stops.turn _ [] [] _ _ ⟨0⟩ _ rfl (.skip rfl))
  have tellsToo : Step past queued :=
    .stops (@Stops.turn _ [] [] _ _ ⟨1⟩ _ rfl (.tell (by decide)))
  have freeToo : ∀ call ∈ queued.calls, ¬ call.Joins ⟨1⟩ := by decide
  have follows : Step queued forsakenReturned :=
    .stops (@Stops.turn _ [] [] _ _ ⟨1⟩ _ rfl (.follow freeToo List.mem_cons_self))
  exact .tail (.tail (.tail (.tail (.tail (.tail (.tail (.tail (.single calls) tells) claims)
    forsakes) ends) callsToo) skips) tellsToo) follows

/-- The call has returned, and the bucket is open. It lets the next one through, and the level
changes. Who finds it empty is told to come back, and a request that is sent through both limiters
gets to its handler. -/
theorem forsakenReturned_open :
    let world := forsakenReturned.world
    let (answer, taken) := world.attempt ⟨1⟩ ""
    let (request, sent) := world.submit (.stack { limiters := [⟨0⟩, ⟨1⟩] }) {}
    Relation.ReflTransGen Step { world := guarded } forsakenReturned ∧
      (∃ call ∈ forsakenReturned.calls, call.ahead = [] ∧ ⟨1⟩ ∈ call.covers) ∧
      answer = .passed ∧ (world.limiters.get ⟨1⟩).bucket?.map Bucket.level = some 1 ∧
      (taken.limiters.get ⟨1⟩).bucket?.map Bucket.level = some 0 ∧
      (taken.decisionOf ⟨1⟩ {}).1 = .refuseFor .tokensExhausted (.ofMillis 10) ∧
      ((sent.start request).requests.get request).called = true := by
  refine ⟨forsakenReturned_reached, ⟨_, List.mem_cons_self, rfl, ?_⟩, rfl, ?_, ?_, ?_, ?_⟩
  all_goals decide

end Closing

end AdmissionControl
