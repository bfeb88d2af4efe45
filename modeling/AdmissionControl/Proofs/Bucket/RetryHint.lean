import AdmissionControl.Proofs.Bucket.Throughput
/-!
The hint of an empty bucket is enough. However time has passed so far, the next fill lies ahead and
is due no later than one period from now. So whoever was refused finds a drop when a period is over,
unless somebody else has taken one.
-/

namespace AdmissionControl

def BucketUse.goesOn : BucketUse → Bool
  | .shutdown => false
  | _ => true

namespace Bucket

private theorem fillAll_level_pos {bucket : Bucket} {now : Nat} (room : 0 < bucket.capacity)
    (reached : bucket.due ≤ now) : 0 < (bucket.fillAll now).level := by
  have first : 0 < (bucket.fill now).level := by
    simp only [fill]
    split <;> omega
  have further := ((bucket.fill now).filled now).level
  rw [fillAll, if_pos reached, further]
  omega

end Bucket

namespace Tally

variable {tally later : Tally} {tokens : Table Token}

/-- The next fill is due within a period. -/
def Soon (tally : Tally) : Prop :=
  tally.bucket.due ≤ tally.now * Duration.nanosPerMilli + tally.bucket.period.nanos

private theorem Becomes.soon (becomes : tally.Becomes later) (soon : tally.Soon) : later.Soon := by
  obtain ⟨periods, moved, -, past⟩ := becomes.due
  have rising := Nat.mul_le_mul_right Duration.nanosPerMilli becomes.rising
  rw [Soon, becomes.period, moved]
  by_cases still : periods = 0
  · rw [still, Nat.zero_mul, Nat.add_zero]
    exact Nat.le_trans soon (Nat.add_le_add_right rising _)
  · exact past (Nat.pos_of_ne_zero still)

/-- Since some moment somebody has taken a drop, or no fill has happened, or there is a drop. -/
structure Replenishes (tally later : Tally) : Prop where
  room : 0 < later.bucket.capacity
  takes : tally.takes ≤ later.takes
  drop : later.takes = tally.takes →
    later.bucket.due = tally.bucket.due ∨ 0 < later.bucket.level

namespace Replenishes

theorem refl (room : 0 < tally.bucket.capacity) : tally.Replenishes tally :=
  ⟨room, Nat.le_refl _, fun _ => .inl rfl⟩

private theorem take (replenishes : tally.Replenishes later) : tally.Replenishes later.take := by
  unfold Tally.take
  split
  · constructor
    case room => exact replenishes.room
    case takes => exact Nat.le_succ_of_le replenishes.takes
    case drop =>
      intro untouched
      have takes := replenishes.takes
      simp only at untouched
      omega
  · exact replenishes

private theorem visit (replenishes : tally.Replenishes later) (moment : Nat) :
    tally.Replenishes (later.visit moment) := by
  by_cases due : later.bucket.shutDown = false ∧
      later.bucket.due ≤ moment * Duration.nanosPerMilli
  · obtain ⟨running, reached⟩ := due
    have filled : (later.visit moment).bucket =
        later.bucket.fillAll (moment * Duration.nanosPerMilli) := by
      simp [Tally.visit, Bucket.visit, running]
    constructor
    case room =>
      rw [filled, (later.bucket.filled _).capacity]
      exact replenishes.room
    case takes => exact replenishes.takes
    case drop =>
      intro _
      rw [filled]
      exact .inr (Bucket.fillAll_level_pos replenishes.room reached)
  · have early : later.bucket.shutDown = false →
        moment * Duration.nanosPerMilli < later.bucket.due := by
      intro running
      exact Nat.not_le.mp fun reached => due ⟨running, reached⟩
    rw [Tally.visit_early early]
    exact ⟨replenishes.room, replenishes.takes, replenishes.drop⟩

private theorem wait (replenishes : tally.Replenishes later) (millis : Nat) :
    tally.Replenishes (later.wait millis) := by
  induction millis generalizing later with
  | zero => exact replenishes
  | succ millis ih => exact ih (replenishes.visit _)

private theorem use (replenishes : tally.Replenishes later) (use : BucketUse) :
    tally.Replenishes (later.use tokens use) := by
  cases use with
  | ask context =>
    simp only [Tally.use]
    split
    · exact replenishes.take
    · exact replenishes
  | attempt => exact replenishes.take
  | sleep millis => exact replenishes.wait millis
  | jump millis => exact replenishes.visit _
  | shutdown => exact ⟨replenishes.room, replenishes.takes, replenishes.drop⟩

private theorem useAll (replenishes : tally.Replenishes later) (uses : List BucketUse) :
    tally.Replenishes (later.useAll tokens uses) := by
  induction uses generalizing later with
  | nil => exact replenishes
  | cons use rest ih => exact ih (replenishes.use use)

/-- When the next fill of then lies behind, there is a drop that nobody has taken. -/
theorem level_pos (replenishes : tally.Replenishes later)
    (untouched : later.takes = tally.takes)
    (past : tally.bucket.due ≤ later.now * Duration.nanosPerMilli)
    (ahead : later.now * Duration.nanosPerMilli < later.bucket.due) :
    0 < later.bucket.level := by
  rcases replenishes.drop untouched with same | some
  · omega
  · exact some

end Replenishes

private theorem take_shutDown (tally : Tally) :
    tally.take.bucket.shutDown = tally.bucket.shutDown := by
  unfold take
  split <;> rfl

private theorem visit_shutDown (tally : Tally) (moment : Nat) :
    (tally.visit moment).bucket.shutDown = tally.bucket.shutDown := by
  simp only [visit, Bucket.visit]
  split
  · rfl
  · exact (tally.bucket.filled _).shutDown

private theorem wait_shutDown (tally : Tally) (millis : Nat) :
    (tally.wait millis).bucket.shutDown = tally.bucket.shutDown := by
  induction millis generalizing tally with
  | zero => rfl
  | succ millis ih => rw [wait, ih, visit_shutDown]

private theorem use_shutDown {use : BucketUse} (goesOn : use.goesOn = true) :
    (tally.use tokens use).bucket.shutDown = tally.bucket.shutDown := by
  cases use with
  | ask context =>
    simp only [Tally.use]
    split
    · exact tally.take_shutDown
    · rfl
  | attempt => exact tally.take_shutDown
  | sleep millis => exact tally.wait_shutDown millis
  | jump millis => exact tally.visit_shutDown _
  | shutdown => cases goesOn

private theorem useAll_shutDown {uses : List BucketUse} (goOn : ∀ use ∈ uses, use.goesOn = true) :
    (tally.useAll tokens uses).bucket.shutDown = tally.bucket.shutDown := by
  induction uses generalizing tally with
  | nil => rfl
  | cons use rest ih =>
    rw [List.forall_mem_cons] at goOn
    exact (ih goOn.2).trans (use_shutDown goOn.1)

end Tally

def Reason.ofEmpty (reason : Reason) : Prop :=
  reason = .tokensExhausted ∨ reason = .bucketEmpty

private theorem Bucket.decide_running {bucket : Bucket} (running : bucket.shutDown = false)
    {empty : Reason} (named : empty.ofEmpty) :
    (bucket.decide empty).1 =
      if 0 < bucket.level then .granted else .refuseFor empty bucket.period := by
  unfold Bucket.decide Bucket.attempt Bucket.take
  by_cases some : 0 < bucket.level
  · simp [running, some]
  · rcases named with rfl | rfl <;> simp [running, some]

namespace World

variable {world : World} {ref : Ref Limiter} {tokens : Table Token} {tally : Tally}

private theorem Mirrors.decision (mirrors : world.Mirrors ref tokens tally)
    (running : tally.bucket.shutDown = false) {context : Context}
    (present : context.abandoned? world.tokens world.now = none) :
    ∃ empty : Reason, empty.ofEmpty ∧ (world.decisionOf ref context).1 =
      if 0 < tally.bucket.level then .granted else .refuseFor empty tally.bucket.period := by
  have found := mirrors.bucket
  simp only [decisionOf, World.ask, present]
  cases kind : world.limiters.get ref with
  | tokenBucket bucket =>
    rw [kind] at found
    obtain rfl := Option.some.inj found
    exact ⟨.tokensExhausted, .inl rfl, Bucket.decide_running running (.inl rfl)⟩
  | leakyBucket bucket =>
    rw [kind] at found
    obtain rfl := Option.some.inj found
    exact ⟨.bucketEmpty, .inr rfl, Bucket.decide_running running (.inr rfl)⟩
  | concurrency _ => rw [kind] at found; cases found
  | fixedWindow _ _ => rw [kind] at found; cases found
  | slidingWindow _ _ _ => rw [kind] at found; cases found

private theorem present_of_refused {context : Context} {reason : Reason}
    {retryAfter : Option Duration} (named : reason.ofEmpty)
    (refused : (world.decisionOf ref context).1 = .refused reason retryAfter) :
    context.abandoned? world.tokens world.now = none := by
  cases gone : context.abandoned? world.tokens world.now with
  | none => rfl
  | some cause =>
    have told : reason = cause := by
      simp only [decisionOf, World.ask, gone, Decision.refuse, Decision.refused.injEq] at refused
      exact refused.1.symm
    have abandoned : cause = .cancelled ∨ cause = .deadlineExceeded := by
      simp only [Context.abandoned?] at gone
      split at gone
      · exact .inl (Option.some.inj gone).symm
      · split at gone
        · exact .inr (Option.some.inj gone).symm
        · cases gone
    rw [told] at named
    rcases named with rfl | rfl <;> simp at abandoned

/-- A bucket that has been used for a while, with a period, keeps what its hint promises. The next
fill is due within a period. Who finds the bucket empty is told to come back after a period, and
whoever does so finds a drop, if nobody has taken one meanwhile. -/
structure HintHolds (used : World) (ref : Ref Limiter) (period : Duration) : Prop where
  due : ∃ bucket, (used.limiters.get ref).bucket? = some bucket ∧ bucket.period = period ∧
    used.now * Duration.nanosPerMilli < bucket.due ∧
    bucket.due ≤ used.now * Duration.nanosPerMilli + period.nanos
  hint : ∀ context reason retryAfter,
    (used.decisionOf ref context).1 = .refused reason retryAfter → reason.ofEmpty →
      retryAfter = some period
  enough : ∀ context reason retryAfter,
    (used.decisionOf ref context).1 = .refused reason retryAfter → reason.ofEmpty →
      ∀ further : List BucketUse, (∀ use ∈ further, use.goesOn = true) →
        let (taken, later) := (used.decisionOf ref context).2.useAll ref further
        taken = 0 →
        used.now * Duration.nanosPerMilli + period.nanos ≤ later.now * Duration.nanosPerMilli →
        ∀ patient : Context, patient.abandoned? later.tokens later.now = none →
          (later.decisionOf ref patient).1 = .granted

private theorem Mirrors.refused (mirrors : world.Mirrors ref tokens tally) {context : Context}
    (running : tally.bucket.shutDown = false)
    (present : context.abandoned? world.tokens world.now = none)
    (refused : (world.decisionOf ref context).1 ≠ .granted) :
    (world.decisionOf ref context).2.Mirrors ref tokens tally := by
  obtain ⟨empty, -, decision⟩ := mirrors.decision running present
  have asked : (world.decisionOf ref context).2.Mirrors ref tokens
      (tally.use tokens (.ask context)) := (mirrors.ask context).1
  have none : ¬ 0 < tally.bucket.level := by
    intro some
    rw [if_pos some] at decision
    exact refused decision
  have still : tally.use tokens (.ask context) = tally := by
    simp only [Tally.use, Tally.take, none, and_false, if_false, ite_self]
  rwa [still] at asked

private theorem Mirrors.hintHolds (mirrors : world.Mirrors ref tokens tally)
    (running : tally.bucket.shutDown = false) (room : 0 < tally.bucket.capacity)
    (soon : tally.Soon) : world.HintHolds ref tally.bucket.period := by
  have ahead := mirrors.ahead running
  have now := mirrors.now
  constructor
  case due =>
    rw [now]
    exact ⟨tally.bucket, mirrors.bucket, rfl, ahead, soon⟩
  case hint =>
    intro context reason retryAfter refused named
    have present := present_of_refused named refused
    obtain ⟨empty, -, decision⟩ := mirrors.decision running present
    rw [decision] at refused
    split at refused
    · cases refused
    · exact (Decision.refused.inj refused).2.symm
  case enough =>
    intro context reason retryAfter refused named further goOn untouched waited patient present
    have there := present_of_refused named refused
    have left := mirrors.refused running there (by simp [refused])
    obtain ⟨used, counted⟩ := left.useAll further
    let later := tally.useAll tokens further
    have running' : later.bucket.shutDown = false :=
      (Tally.useAll_shutDown goOn).trans running
    have replenishes : tally.Replenishes later := (Tally.Replenishes.refl room).useAll further
    have some : 0 < later.bucket.level := by
      apply replenishes.level_pos
      case untouched =>
        rw [untouched, Nat.add_zero] at counted
        exact counted.symm
      case past =>
        rw [now, used.now] at waited
        exact Nat.le_trans soon waited
      case ahead => exact used.ahead running'
    obtain ⟨empty, -, decision⟩ := used.decision running' present
    rw [decision, if_pos some]

/-- A token bucket or a leaky one is built and used in any way, but the filling is not stopped. Then
its hint holds, whatever time has brought so far. -/
theorem retryHint_suffices {plan : LimiterPlan} {capacity initial : Nat} {period : Duration}
    (bucket : plan = .tokenBucket capacity period initial ∨
      plan = .leakyBucket capacity period initial)
    (running : world.hasRuntime = true) (idle : world.Idle) {uses : List BucketUse}
    (goOn : ∀ use ∈ uses, use.goesOn = true) :
    ∃ ref built, world.build plan none = (.ok ref, built) ∧
      (built.useAll ref uses).2.HintHolds ref
        (if period.isZero then Defaults.interval else period) := by
  obtain ⟨ref, built, made, mirrors⟩ := mirrors_build bucket running idle
  let start := Tally.ofSettings capacity period initial world.now
  have used := (mirrors.useAll uses).1
  have becomes := start.useAll_becomes world.tokens uses
  have room : 0 < start.bucket.capacity := by
    have most : 0 < maxDrops ∧ 0 < Defaults.capacity := by decide
    simp only [start, Tally.ofSettings]
    split <;> omega
  have first : start.Soon := Nat.le_refl _
  have holds := used.hintHolds ((Tally.useAll_shutDown goOn).trans rfl)
    (becomes.capacity.symm ▸ room) (becomes.soon first)
  rw [becomes.period] at holds
  exact ⟨ref, built, made, holds⟩

/-- The bucket is jumped past its fills and then emptied. -/
theorem retryHint_suffices_jumped :
    let uses : List BucketUse := [.sleep 1, .jump 20, .attempt, .attempt]
    (initial.hasRuntime = true ∧ initial.Idle ∧ ∀ use ∈ uses, use.goesOn = true) ∧
      ∃ ref built, initial.build (.leakyBucket 2 ⟨1500000⟩ 0) none = (.ok ref, built) ∧
        (built.useAll ref uses).2.HintHolds ref ⟨1500000⟩ ∧
        ((built.useAll ref uses).2.decisionOf ref {}).1 = .refuseFor .bucketEmpty ⟨1500000⟩ := by
  intro uses
  have running : initial.hasRuntime = true := rfl
  have idle : initial.Idle := by simp [Idle, initial]
  have goOn : ∀ use ∈ uses, use.goesOn = true := by decide
  have bucket : LimiterPlan.leakyBucket 2 ⟨1500000⟩ 0 = .tokenBucket 2 ⟨1500000⟩ 0 ∨
      LimiterPlan.leakyBucket 2 ⟨1500000⟩ 0 = .leakyBucket 2 ⟨1500000⟩ 0 := .inr rfl
  obtain ⟨ref, built, made, holds⟩ := retryHint_suffices bucket running idle goOn
  refine ⟨⟨running, idle, goOn⟩, ref, built, made, holds, ?_⟩
  cases made
  decide +kernel

end World

end AdmissionControl
