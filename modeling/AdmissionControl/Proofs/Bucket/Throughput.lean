import AdmissionControl.Proofs.Bucket.Tally
import AdmissionControl.World.Building
import AdmissionControl.World.Time
/-!
The throughput of a bucket, over every way to use it. Time that passes by itself stops only where
something is due and a jump stops nowhere, and yet the bucket of a world is at any time that of a
tally for which time visits every millisecond but those that are jumped.
-/

namespace AdmissionControl

/-- What happens to a bucket: a caller asks or just tries, time passes or jumps, and the filling is
stopped. -/
inductive BucketUse where
  | ask (context : Context)
  | attempt
  | sleep (millis : Nat)
  | jump (millis : Nat)
  | shutdown

theorem lt_ceilMilli {moment nanos : Nat} :
    moment < ceilMilli nanos ↔ moment * Duration.nanosPerMilli < nanos := by
  simp only [ceilMilli, Duration.nanosPerMilli]
  omega

namespace Bucket

private theorem visit_visit (bucket : Bucket) (now : Nat) :
    (bucket.visit now).visit now = bucket.visit now := by
  by_cases stopped : bucket.shutDown = true
  · simp [visit, stopped]
  · have filled := bucket.filled (now * Duration.nanosPerMilli)
    have ahead := lt_due_fillAll bucket (now * Duration.nanosPerMilli)
    simp [visit, stopped, filled.shutDown, fillAll_early ahead]

private theorem visit_early {bucket : Bucket} {now : Nat}
    (early : bucket.shutDown = false → now * Duration.nanosPerMilli < bucket.due) :
    bucket.visit now = bucket := by
  cases stopped : bucket.shutDown with
  | true => simp [visit, stopped]
  | false => simp [visit, stopped, fillAll_early (early stopped)]

private theorem visit_ahead {bucket : Bucket} {now : Nat}
    (running : (bucket.visit now).shutDown = false) :
    now * Duration.nanosPerMilli < (bucket.visit now).due := by
  by_cases stopped : bucket.shutDown = true
  · simp [visit, stopped] at running
  · simpa [visit, stopped] using lt_due_fillAll bucket (now * Duration.nanosPerMilli)

end Bucket

namespace Tally

/-- The bucket that is built with some settings, zeros replaced by the defaults. It holds no more
than a bucket can hold, and its first fill is due after one period. -/
def ofSettings (capacity : Nat) (period : Duration) (initial now : Nat) : Tally where
  bucket :=
    { capacity := min (if capacity = 0 then Defaults.capacity else capacity) maxDrops
      period := if period.isZero then Defaults.interval else period
      period_pos := by
        split
        · decide
        · next some => exact Nat.pos_of_ne_zero (by simpa [Duration.isZero] using some)
      level := min initial (min (if capacity = 0 then Defaults.capacity else capacity) maxDrops)
      due := now * Duration.nanosPerMilli +
        (if period.isZero then Defaults.interval else period).nanos }
  now := now

/-- What a use makes of a tally. A caller who has gone takes nothing. -/
def use (tokens : Table Token) (tally : Tally) : BucketUse → Tally
  | .ask context =>
    if context.abandoned? tokens tally.now = none then tally.take else tally
  | .attempt => tally.take
  | .sleep millis => tally.wait millis
  | .jump millis => tally.visit (tally.now + millis)
  | .shutdown => tally.shutdown

def useAll (tokens : Table Token) (tally : Tally) (uses : List BucketUse) : Tally :=
  uses.foldl (use tokens) tally

private theorem use_becomes (tokens : Table Token) (tally : Tally) (use : BucketUse) :
    tally.Becomes (tally.use tokens use) := by
  cases use with
  | ask context =>
    simp only [Tally.use]
    split
    · exact .take tally
    · exact .refl tally
  | attempt => exact .take tally
  | sleep millis => exact .wait tally millis
  | jump millis => exact .visit tally (Nat.le_add_right _ _)
  | shutdown => exact .shutdown tally

theorem useAll_becomes (tokens : Table Token) (tally : Tally) (uses : List BucketUse) :
    tally.Becomes (tally.useAll tokens uses) := by
  induction uses generalizing tally with
  | nil => exact .refl tally
  | cons use rest ih => exact (tally.use_becomes tokens use).trans (ih _)

theorem visit_early {tally : Tally} {moment : Nat}
    (early : tally.bucket.shutDown = false →
      moment * Duration.nanosPerMilli < tally.bucket.due) :
    tally.visit moment = { tally with now := moment } := by
  simp only [visit, Bucket.visit_early early]
  cases stopped : tally.bucket.shutDown with
  | true => simp
  | false => simp [Bucket.gains_early (early stopped)]

private theorem wait_add (tally : Tally) (first second : Nat) :
    tally.wait (first + second) = (tally.wait first).wait second := by
  induction first generalizing tally with
  | zero => simp [wait]
  | succ first ih => rw [Nat.succ_add, wait, wait, ih]

theorem wait_takes (tally : Tally) (millis : Nat) : (tally.wait millis).takes = tally.takes := by
  induction millis generalizing tally with
  | zero => rfl
  | succ millis ih =>
    rw [wait, ih]
    rfl

/-- Where nothing is due before its end, a wait comes to a visit at its end. -/
theorem wait_eq_visit {tally : Tally} {millis : Nat} (some : 0 < millis)
    (early : tally.bucket.shutDown = false →
      (tally.now + millis - 1) * Duration.nanosPerMilli < tally.bucket.due) :
    tally.wait millis = tally.visit (tally.now + millis) := by
  induction millis generalizing tally with
  | zero => cases some
  | succ millis ih =>
    by_cases last : millis = 0
    · subst last
      rfl
    · have next : tally.visit (tally.now + 1) = { tally with now := tally.now + 1 } := by
        apply visit_early
        intro running
        have sooner := Nat.mul_le_mul_right Duration.nanosPerMilli
          (by omega : tally.now + 1 ≤ tally.now + (millis + 1) - 1)
        exact Nat.lt_of_le_of_lt sooner (early running)
      rw [wait, next, ih (Nat.pos_of_ne_zero last)]
      · simp only [visit, Nat.add_assoc, Nat.add_comm 1 millis]
      · intro running
        have same : tally.now + 1 + millis - 1 = tally.now + (millis + 1) - 1 := by omega
        simp only [same]
        exact early running

end Tally

private theorem normalizeCount_fst (part : Part) (setting : Setting) (value default : Nat) :
    (normalizeCount part setting value default).1 = if value = 0 then default else value := by
  unfold normalizeCount
  split <;> rfl

private theorem normalizeDuration_fst (part : Part) (setting : Setting) (value default : Duration) :
    (normalizeDuration part setting value default).1 =
      if value.isZero then default else value := by
  unfold normalizeDuration
  split <;> rfl

private theorem Bucket.new_ofSettings (kind : Kind) (periodSetting : Setting) (capacity : Nat)
    (period : Duration) (initial now : Nat) :
    (Bucket.new kind periodSetting capacity period initial now true).1 =
      .ok (Tally.ofSettings capacity period initial now).bucket := by
  simp only [Bucket.new, Tally.ofSettings, if_true, normalizeCount_fst, normalizeDuration_fst]

/-- Whatever an empty bucket says, a tally counts the drops that callers get. -/
theorem Bucket.attempt_take (tally : Tally) (empty : Reason) :
    (tally.bucket.attempt empty).2 = tally.take.bucket ∧
      tally.take.takes =
        tally.takes + if (tally.bucket.attempt empty).1.isOk then 1 else 0 := by
  unfold Tally.take Bucket.attempt Bucket.take
  by_cases running : tally.bucket.shutDown = false
  · by_cases some : 0 < tally.bucket.level
    · simp [running, some, Except.isOk, Except.toBool]
    · simp [running, some, Except.isOk, Except.toBool]
  · simp [running, Except.isOk, Except.toBool]

private theorem Bucket.decide_attempt (bucket : Bucket) (empty : Reason) :
    (bucket.decide empty).2 = (bucket.attempt empty).2 ∧
      (bucket.decide empty).1.isGranted = (bucket.attempt empty).1.isOk := by
  unfold Bucket.decide
  split <;> next tried => simp [tried, Decision.isGranted, Decision.refuse, Decision.refuseFor,
    Except.isOk, Except.toBool]

private theorem Limiter.mapBucket_bucket? (limiter : Limiter) (change : Bucket → Bucket) :
    (limiter.mapBucket change).bucket? = limiter.bucket?.map change := by
  cases limiter <;> rfl

namespace World

/-- What a use makes of the world, and how many drops it takes. -/
def use (world : World) (ref : Ref Limiter) : BucketUse → Nat × World
  | .ask context =>
    let (decision, world) := world.decisionOf ref context
    (if decision.isGranted then 1 else 0, world)
  | .attempt =>
    let (attempt, world) := world.attempt ref ""
    (match attempt with
      | .passed => 1
      | _ => 0, world)
  | .sleep millis => (0, world.sleep millis)
  | .jump millis => (0, world.jump millis)
  | .shutdown => (0, world.shutdown ref)

def useAll (world : World) (ref : Ref Limiter) : List BucketUse → Nat × World
  | [] => (0, world)
  | use :: rest =>
    let (taken, world) := world.use ref use
    let (more, world) := useAll world ref rest
    (taken + more, world)

/-- Whoever waits for a moment is a bucket that waits for its next fill. -/
def Idle (world : World) : Prop := ∀ alarm ∈ world.alarms, ∃ ref, alarm.sleeper = .bucket ref

/-- The world shows the bucket and the time of a tally. While the filling goes on, the next fill
lies ahead, and there is an alarm for it. -/
structure Mirrors (world : World) (ref : Ref Limiter) (tokens : Table Token) (tally : Tally) :
    Prop where
  bucket : (world.limiters.get ref).bucket? = some tally.bucket
  now : world.now = tally.now
  tokens : world.tokens = tokens
  idle : world.Idle
  alarm : tally.bucket.shutDown = false → ⟨ceilMilli tally.bucket.due, .bucket ref⟩ ∈ world.alarms
  ahead : tally.bucket.shutDown = false → tally.now * Duration.nanosPerMilli < tally.bucket.due

/-- Some of the alarms that are due at this moment have yet to ring. Either one of them is for the
bucket, which is as it was, or it has had its fills and its next alarm is set. -/
structure Ringing (world : World) (ref : Ref Limiter) (tokens : Table Token) (bucket : Bucket)
    (queue : List Alarm) : Prop where
  tokens : world.tokens = tokens
  idle : ∀ alarm ∈ queue ++ world.alarms, ∃ ref, alarm.sleeper = .bucket ref
  turn :
    (world.limiters.get ref).bucket? = some bucket ∧
        (∃ alarm ∈ queue, alarm.sleeper = .bucket ref) ∨
    (world.limiters.get ref).bucket? = some (bucket.visit world.now) ∧
      ((bucket.visit world.now).shutDown = false →
        ⟨ceilMilli (bucket.visit world.now).due, .bucket ref⟩ ∈ world.alarms)

variable {world : World} {ref : Ref Limiter} {tokens : Table Token} {tally : Tally}
  {bucket : Bucket} {queue : List Alarm}

/-- What filling a bucket changes: that bucket, and the alarms by the one for its next fill. -/
structure Refilled (world : World) (ref : Ref Limiter) (after : World) : Prop where
  now : after.now = world.now
  tokens : after.tokens = world.tokens
  limiters : ∀ other, (after.limiters.get other).bucket? =
    if ref = other then (world.limiters.get other).bucket?.map (·.visit world.now)
    else (world.limiters.get other).bucket?
  alarms : after.alarms = world.alarms ++
    (((after.limiters.get ref).bucket?.bind Bucket.wake?).map (⟨·, .bucket ref⟩)).toList

private theorem refilled (world : World) (ref : Ref Limiter) :
    world.Refilled ref (world.refill ref) := by
  have limiters (other : Ref Limiter) : ((world.limiters.modify ref
      (Limiter.mapBucket (·.visit world.now))).get other).bucket? =
        if ref = other then (world.limiters.get other).bucket?.map (·.visit world.now)
        else (world.limiters.get other).bucket? := by
    rw [Table.get_modify]
    split
    · next same => rw [same, Limiter.mapBucket_bucket?]
    · rfl
  simp only [refill, scheduleFill]
  generalize filled : world.limiters.modify ref (Limiter.mapBucket (·.visit world.now)) = table
    at limiters
  cases waits : (table.get ref).bucket?.bind Bucket.wake? with
  | none => exact ⟨rfl, rfl, limiters, by simp [setAlarm, waits]⟩
  | some moment => exact ⟨rfl, rfl, limiters, by simp [setAlarm, waits]⟩

private theorem Ringing.refill {alarm : Alarm} {other : Ref Limiter}
    (ringing : world.Ringing ref tokens bucket (alarm :: queue))
    (sleeper : alarm.sleeper = .bucket other) :
    (world.refill other).Ringing ref tokens bucket queue := by
  have refilled := world.refilled other
  have limiters := refilled.limiters ref
  constructor
  case tokens => rw [refilled.tokens, ringing.tokens]
  case idle =>
    intro waiting member
    rw [refilled.alarms, ← List.append_assoc, List.mem_append] at member
    rcases member with old | added
    · exact ringing.idle waiting (by simp only [List.cons_append, List.mem_cons, old, or_true])
    · rw [Option.mem_toList, Option.map_eq_some_iff] at added
      obtain ⟨moment, _, rfl⟩ := added
      exact ⟨other, rfl⟩
  case turn =>
    rw [refilled.now]
    have armed {filled : Bucket}
        (found : ((world.refill ref).limiters.get ref).bucket? = some filled)
        (running : filled.shutDown = false) :
        ⟨ceilMilli filled.due, .bucket ref⟩ ∈ (world.refill ref).alarms := by
      rw [(world.refilled ref).alarms, found]
      simp [Bucket.wake?, running]
    by_cases same : other = ref
    · subst same
      rw [if_pos rfl] at limiters
      have visited : ((world.refill other).limiters.get other).bucket? =
          some (bucket.visit world.now) := by
        rcases ringing.turn with ⟨before, _⟩ | ⟨after, _⟩
        · rw [limiters, before, Option.map_some]
        · rw [limiters, after, Option.map_some, Bucket.visit_visit]
      exact .inr ⟨visited, armed visited⟩
    · rw [if_neg same] at limiters
      rcases ringing.turn with ⟨before, due, member, own⟩ | ⟨after, alarm⟩
      · refine .inl ⟨limiters.trans before, due, ?_, own⟩
        rcases List.mem_cons.mp member with first | later
        · rw [first, sleeper] at own
          exact absurd (Sleeper.bucket.inj own) same
        · exact later
      · refine .inr ⟨limiters.trans after, fun running => ?_⟩
        rw [refilled.alarms]
        exact List.mem_append_left _ (alarm running)

private theorem Ringing.rung (ringing : world.Ringing ref tokens bucket queue) :
    let after := queue.foldl (fun world alarm => world.ring alarm.sleeper) world
    after.now = world.now ∧ after.Ringing ref tokens bucket [] := by
  induction queue generalizing world with
  | nil => exact ⟨rfl, ringing⟩
  | cons alarm queue ih =>
    obtain ⟨other, sleeper⟩ := ringing.idle alarm (by simp)
    have refilled := ih (ringing.refill sleeper)
    rw [(world.refilled other).now] at refilled
    simpa only [List.foldl_cons, ring, sleeper] using refilled

private theorem Mirrors.settle (mirrors : world.Mirrors ref tokens tally) (moment : Nat) :
    { world with now := moment }.settle.Mirrors ref tokens (tally.visit moment) := by
  have due (alarm : Alarm) : alarm ∈ (world.alarms.partition (·.moment ≤ moment)).1 ↔
      alarm ∈ world.alarms ∧ alarm.moment ≤ moment := by
    simp [List.partition_eq_filter_filter]
  have later (alarm : Alarm) : alarm ∈ (world.alarms.partition (·.moment ≤ moment)).2 ↔
      alarm ∈ world.alarms ∧ moment < alarm.moment := by
    simp [List.partition_eq_filter_filter]
  simp only [World.settle]
  generalize world.alarms.partition (·.moment ≤ moment) = parts at due later
  obtain ⟨first, rest⟩ := parts
  simp only at due later ⊢
  have ringing : World.Ringing { world with now := moment, alarms := rest } ref tokens tally.bucket
      (first.mergeSort fun one other => one.moment ≤ other.moment) := by
    constructor
    case tokens => exact mirrors.tokens
    case idle =>
      intro alarm member
      rw [List.mem_append, List.mem_mergeSort] at member
      rcases member with present | future
      · exact mirrors.idle alarm ((due alarm).mp present).1
      · exact mirrors.idle alarm ((later alarm).mp future).1
    case turn =>
      by_cases reached : tally.bucket.shutDown = false ∧
          tally.bucket.due ≤ moment * Duration.nanosPerMilli
      · obtain ⟨running, reached⟩ := reached
        refine .inl ⟨mirrors.bucket, ⟨ceilMilli tally.bucket.due, .bucket ref⟩, ?_, rfl⟩
        rw [List.mem_mergeSort]
        refine (due _).mpr ⟨mirrors.alarm running, ?_⟩
        exact Nat.not_lt.mp fun early => Nat.not_lt.mpr reached (lt_ceilMilli.mp early)
      · have early : tally.bucket.shutDown = false →
            moment * Duration.nanosPerMilli < tally.bucket.due := by
          intro running
          exact Nat.not_le.mp fun past => reached ⟨running, past⟩
        simp only [Bucket.visit_early early]
        refine .inr ⟨mirrors.bucket, fun running => (later _).mpr ⟨mirrors.alarm running, ?_⟩⟩
        exact lt_ceilMilli.mpr (early running)
  obtain ⟨now, rung⟩ := ringing.rung
  obtain ⟨_, _, none, _⟩ | ⟨visited, armed⟩ := rung.turn
  · cases none
  · rw [now] at visited armed
    exact ⟨visited, now, rung.tokens, fun alarm member => rung.idle alarm member, armed,
      Bucket.visit_ahead⟩

private theorem Mirrors.rest (mirrors : world.Mirrors ref tokens tally) :
    world.settle.Mirrors ref tokens tally := by
  have still : tally.visit world.now = tally := by
    rw [mirrors.now, Tally.visit_early mirrors.ahead]
  have settled := mirrors.settle world.now
  rwa [still] at settled

private theorem Mirrors.here (mirrors : world.Mirrors ref tokens tally) :
    { world with now := max world.now world.now }.settle.Mirrors ref tokens
      (tally.wait (world.now - tally.now)) := by
  rw [Nat.max_self, mirrors.now, Nat.sub_self, ← mirrors.now]
  exact mirrors.rest

private theorem Mirrors.wait_stop (mirrors : world.Mirrors ref tokens tally) {target moment : Nat}
    (stop : world.nextStop? target = some moment) :
    world.now < moment ∧ moment < target ∧
      tally.wait (moment - tally.now) = tally.visit moment := by
  simp only [nextStop?, List.min?_eq_some_iff, List.mem_filter, List.mem_map,
    decide_eq_true_eq] at stop
  obtain ⟨⟨_, ahead, before⟩, first⟩ := stop
  have now := mirrors.now
  have whole : tally.now + (moment - tally.now) = moment := by omega
  refine ⟨ahead, before, ?_⟩
  rw [Tally.wait_eq_visit (by omega), whole]
  intro running
  rw [whole, ← lt_ceilMilli]
  by_contra early
  have fill := first (ceilMilli tally.bucket.due)
    ⟨⟨_, mirrors.alarm running, rfl⟩, ?_, by omega⟩
  · omega
  · rw [now]
    exact lt_ceilMilli.mpr (mirrors.ahead running)

private theorem Mirrors.wait_through (mirrors : world.Mirrors ref tokens tally) {target : Nat}
    (through : world.nextStop? target = none) (ahead : world.now < target) :
    tally.wait (target - tally.now) = tally.visit target := by
  simp only [nextStop?, List.min?_eq_none_iff, List.filter_eq_nil_iff, List.mem_map,
    decide_eq_true_eq] at through
  have now := mirrors.now
  have whole : tally.now + (target - tally.now) = target := by omega
  rw [Tally.wait_eq_visit (by omega), whole]
  intro running
  rw [whole, ← lt_ceilMilli]
  by_contra early
  refine through (ceilMilli tally.bucket.due) ⟨_, mirrors.alarm running, rfl⟩ ⟨?_, by omega⟩
  rw [now]
  exact lt_ceilMilli.mpr (mirrors.ahead running)

/-- On its way to a moment the world stops only where there is an alarm, and the bucket becomes
what it would become if time visited every millisecond. -/
theorem Mirrors.reachWithin {steps target : Nat} (mirrors : world.Mirrors ref tokens tally)
    (enough : target - world.now ≤ steps) (ahead : world.now ≤ target) :
    (world.reachWithin steps target).settle.Mirrors ref tokens
      (tally.wait (target - tally.now)) := by
  induction steps generalizing world tally with
  | zero =>
    have present : target = world.now := by omega
    rw [present]
    exact mirrors.here
  | succ steps ih =>
    have now := mirrors.now
    rw [World.reachWithin]
    cases stop : world.nextStop? target with
    | some moment =>
      obtain ⟨later, before, waited⟩ := mirrors.wait_stop stop
      have arrived := mirrors.settle moment
      have parts : target - tally.now = (moment - tally.now) + (target - moment) := by omega
      rw [parts, Tally.wait_add, waited]
      have moved : (World.settle { world with now := moment }).now = moment := arrived.now
      exact ih arrived (by omega) (by omega)
    | none =>
      by_cases last : target = world.now
      · rw [last]
        exact mirrors.here
      · rw [mirrors.wait_through stop (by omega), Nat.max_eq_right ahead]
        exact mirrors.settle target

private theorem Mirrors.sleep (mirrors : world.Mirrors ref tokens tally) (millis : Nat) :
    (world.sleep millis).Mirrors ref tokens (tally.wait millis) := by
  have rested := mirrors.rest
  have now := rested.now
  have start := mirrors.now
  have slept := @Mirrors.reachWithin _ _ _ _ millis (world.now + millis) rested
    (by omega) (by omega)
  simp only [start, Nat.add_sub_cancel_left] at slept
  simpa only [World.sleep, sleepTo, reach, start, Nat.add_sub_cancel_left] using slept

private theorem Mirrors.setLimiter (mirrors : world.Mirrors ref tokens tally) {limiter : Limiter}
    {changed : Tally} (bucket : limiter.bucket? = some changed.bucket)
    (now : changed.now = tally.now) (due : changed.bucket.due = tally.bucket.due)
    (running : changed.bucket.shutDown = false → tally.bucket.shutDown = false) :
    (world.setLimiter ref limiter).Mirrors ref tokens changed where
  bucket := by simp [World.setLimiter, bucket]
  now := mirrors.now.trans now.symm
  tokens := mirrors.tokens
  idle := mirrors.idle
  alarm still := by
    rw [due]
    exact mirrors.alarm (running still)
  ahead still := by
    rw [due, now]
    exact mirrors.ahead (running still)

private theorem Mirrors.take (mirrors : world.Mirrors ref tokens tally) {limiter : Limiter}
    (bucket : limiter.bucket? = some tally.take.bucket) :
    (world.setLimiter ref limiter).Mirrors ref tokens tally.take := by
  apply mirrors.setLimiter bucket
  all_goals
    unfold Tally.take
    split <;> simp

theorem Mirrors.ask (mirrors : world.Mirrors ref tokens tally) (context : Context) :
    (world.use ref (.ask context)).2.Mirrors ref tokens (tally.use tokens (.ask context)) ∧
      tally.takes + (world.use ref (.ask context)).1 =
        (tally.use tokens (.ask context)).takes := by
  have found := mirrors.bucket
  simp only [use, decisionOf, World.ask, Tally.use, mirrors.tokens, mirrors.now]
  cases gone : context.abandoned? tokens tally.now with
  | some reason => exact ⟨mirrors, rfl⟩
  | none =>
    cases kind : world.limiters.get ref with
    | tokenBucket bucket =>
      rw [kind] at found
      obtain rfl := Option.some.inj found
      obtain ⟨after, granted⟩ := tally.bucket.decide_attempt .tokensExhausted
      obtain ⟨same, counted⟩ := Bucket.attempt_take tally .tokensExhausted
      simp only [if_true, granted, counted, after, same, and_true]
      exact mirrors.take rfl
    | leakyBucket bucket =>
      rw [kind] at found
      obtain rfl := Option.some.inj found
      obtain ⟨after, granted⟩ := tally.bucket.decide_attempt .bucketEmpty
      obtain ⟨same, counted⟩ := Bucket.attempt_take tally .bucketEmpty
      simp only [if_true, granted, counted, after, same, and_true]
      exact mirrors.take rfl
    | concurrency _ => rw [kind] at found; cases found
    | fixedWindow _ _ => rw [kind] at found; cases found
    | slidingWindow _ _ _ => rw [kind] at found; cases found

private theorem Mirrors.attempt (mirrors : world.Mirrors ref tokens tally) :
    (world.use ref .attempt).2.Mirrors ref tokens tally.take ∧
      tally.takes + (world.use ref .attempt).1 = tally.take.takes := by
  have found := mirrors.bucket
  have passed (result : Except Reason Unit) : (match attempt.bucketAttempt result with
      | .passed => 1
      | _ => 0) = if result.isOk then 1 else 0 := by
    cases result <;> rfl
  simp only [use, World.attempt]
  cases kind : world.limiters.get ref with
  | tokenBucket bucket =>
    rw [kind] at found
    obtain rfl := Option.some.inj found
    obtain ⟨same, counted⟩ := Bucket.attempt_take tally .tokensExhausted
    simp only [passed, counted, same, and_true]
    exact mirrors.take rfl
  | leakyBucket bucket =>
    rw [kind] at found
    obtain rfl := Option.some.inj found
    obtain ⟨same, counted⟩ := Bucket.attempt_take tally .bucketEmpty
    simp only [passed, counted, same, and_true]
    exact mirrors.take rfl
  | concurrency _ => rw [kind] at found; cases found
  | fixedWindow _ _ => rw [kind] at found; cases found
  | slidingWindow _ _ _ => rw [kind] at found; cases found

private theorem Mirrors.shutdown (mirrors : world.Mirrors ref tokens tally) :
    (world.shutdown ref).Mirrors ref tokens tally.shutdown := by
  simp only [World.shutdown, mirrors.bucket]
  cases stopped : tally.bucket.shutDown with
  | true =>
    have same : tally.shutdown = tally := by
      simp only [Tally.shutdown, Bucket.shutdown, ← stopped]
    rw [same]
    exact mirrors
  | false =>
    have found : ((world.limiters.get ref).mapBucket Bucket.shutdown).bucket? =
        some tally.shutdown.bucket := by
      rw [Limiter.mapBucket_bucket?, mirrors.bucket]
      rfl
    have closed := mirrors.setLimiter found rfl rfl fun running => by cases running
    exact ⟨closed.bucket, closed.now, closed.tokens, closed.idle, closed.alarm, closed.ahead⟩

/-- One use does to the world's bucket what it does to the tally's. -/
theorem Mirrors.use (mirrors : world.Mirrors ref tokens tally) (use : BucketUse) :
    (world.use ref use).2.Mirrors ref tokens (tally.use tokens use) ∧
      tally.takes + (world.use ref use).1 = (tally.use tokens use).takes := by
  cases use with
  | ask context => exact mirrors.ask context
  | attempt => exact mirrors.attempt
  | sleep millis =>
    refine ⟨mirrors.sleep millis, ?_⟩
    exact (Tally.wait_takes tally millis).symm
  | jump millis =>
    refine ⟨?_, rfl⟩
    have settled := mirrors.settle (world.now + millis)
    rw [mirrors.now] at settled
    simpa only [World.use, World.jump, Tally.use, mirrors.now] using settled
  | shutdown => exact ⟨mirrors.shutdown, rfl⟩

theorem Mirrors.useAll (mirrors : world.Mirrors ref tokens tally) (uses : List BucketUse) :
    (world.useAll ref uses).2.Mirrors ref tokens (tally.useAll tokens uses) ∧
      tally.takes + (world.useAll ref uses).1 = (tally.useAll tokens uses).takes := by
  induction uses generalizing world tally with
  | nil => exact ⟨mirrors, rfl⟩
  | cons use rest ih =>
    obtain ⟨first, counted⟩ := mirrors.use use
    obtain ⟨all, counted'⟩ := ih first
    refine ⟨all, ?_⟩
    rw [← counted, Nat.add_assoc] at counted'
    exact counted'

private theorem mirrors_scheduleFill (idle : world.Idle) (now : tally.now = world.now)
    {limiter : Limiter} (bucket : limiter.bucket? = some tally.bucket)
    (running : tally.bucket.shutDown = false)
    (ahead : tally.now * Duration.nanosPerMilli < tally.bucket.due) :
    ((world.addLimiter limiter).2.scheduleFill (world.addLimiter limiter).1).Mirrors
      (world.addLimiter limiter).1 world.tokens tally := by
  have found : ((world.addLimiter limiter).2.limiters.get (world.addLimiter limiter).1) = limiter :=
    Table.get_add_self world.limiters limiter
  simp only [scheduleFill, found, bucket, Option.bind_some, Bucket.wake?, running, setAlarm]
  constructor
  case bucket => exact (congrArg Limiter.bucket? found).trans bucket
  case now => exact now.symm
  case tokens => rfl
  case idle =>
    intro alarm member
    rcases List.mem_append.mp member with old | added
    · exact idle alarm old
    · exact ⟨_, by rw [List.mem_singleton.mp added]⟩
  case alarm =>
    intro _
    exact List.mem_append_right _ (List.mem_singleton.mpr rfl)
  case ahead => exact fun _ => ahead

private theorem mirrors_buildBucket (kind : Kind) (periodSetting : Setting) (capacity : Nat)
    (period : Duration) (initial : Nat) {wrap : Bucket → Limiter}
    (wraps : ∀ bucket, (wrap bucket).bucket? = some bucket)
    (running : world.hasRuntime = true) (idle : world.Idle) :
    ∃ ref built,
      world.buildBucket kind periodSetting capacity period initial wrap = (.ok ref, built) ∧
      built.Mirrors ref world.tokens (.ofSettings capacity period initial world.now) := by
  have settings := Bucket.new_ofSettings kind periodSetting capacity period initial world.now
  have later := (Tally.ofSettings capacity period initial world.now).bucket.period_pos
  simp only [buildBucket, running]
  generalize Bucket.new kind periodSetting capacity period initial world.now true = made at settings
  obtain ⟨bucket, report⟩ := made
  simp only at settings
  subst settings
  have recorded : (world.record report).Idle := idle
  exact ⟨_, _, rfl, mirrors_scheduleFill recorded rfl (wraps _) rfl (Nat.lt_add_of_pos_right later)⟩

theorem mirrors_build {plan : LimiterPlan} {capacity initial : Nat} {period : Duration}
    (bucket : plan = .tokenBucket capacity period initial ∨
      plan = .leakyBucket capacity period initial)
    (running : world.hasRuntime = true) (idle : world.Idle) :
    ∃ ref built, world.build plan none = (.ok ref, built) ∧
      built.Mirrors ref world.tokens (.ofSettings capacity period initial world.now) := by
  rcases bucket with rfl | rfl
  · exact mirrors_buildBucket .tokenBucket .interval capacity period initial (fun _ => rfl)
      running idle
  · exact mirrors_buildBucket .leakyBucket .rate capacity period initial (fun _ => rfl)
      running idle

/-- The throughput of a bucket that began as a tally says and was then used, and used further. Every
drop that is in it or was taken was in it when it began or came with a fill, and there are never
more in it than its capacity. No more were taken than were in it when it began and than periods have
passed, and afterwards no more than are in it and than periods begin. -/
structure Throughput (built : World) (ref : Ref Limiter) (start : Tally)
    (uses further : List BucketUse) : Prop where
  bucket : ((built.useAll ref uses).2.limiters.get ref).bucket? =
    some (start.useAll built.tokens uses).bucket
  now : (built.useAll ref uses).2.now = (start.useAll built.tokens uses).now
  drops : (start.useAll built.tokens uses).bucket.level + (built.useAll ref uses).1 =
    start.bucket.level + (start.useAll built.tokens uses).fills
  within : (start.useAll built.tokens uses).bucket.level ≤ start.bucket.capacity
  since : (built.useAll ref uses).1 ≤ start.bucket.level +
    ((built.useAll ref uses).2.now - start.now) * Duration.nanosPerMilli /
      start.bucket.period.nanos
  between : ((built.useAll ref uses).2.useAll ref further).1 ≤
    (start.useAll built.tokens uses).bucket.level +
      (((built.useAll ref uses).2.useAll ref further).2.now - (built.useAll ref uses).2.now) *
        Duration.nanosPerMilli ⌈/⌉ start.bucket.period.nanos

private theorem Mirrors.throughput {start : Tally} (mirrors : world.Mirrors ref tokens start)
    (first : start.bucket.due =
      start.now * Duration.nanosPerMilli + start.bucket.period.nanos)
    (unused : start.fills = 0 ∧ start.takes = 0)
    (room : start.bucket.level ≤ start.bucket.capacity) (uses further : List BucketUse) :
    world.Throughput ref start uses further := by
  obtain rfl := mirrors.tokens
  obtain ⟨used, taken⟩ := mirrors.useAll uses
  obtain ⟨_, retaken⟩ := used.useAll further
  have reused := (used.useAll further).1
  have begun := start.useAll_becomes world.tokens uses
  have passed := (start.useAll world.tokens uses).useAll_becomes world.tokens further
  have counted : (world.useAll ref uses).1 = (start.useAll world.tokens uses).takes := by omega
  constructor
  case bucket => exact used.bucket
  case now => exact used.now
  case drops =>
    have drops := begun.drops
    omega
  case within => exact begun.within room
  case since =>
    rw [counted, used.now]
    exact begun.takes_le first unused
  case between =>
    have between := passed.takes_between_le used.ahead
    rw [begun.period] at between
    rw [used.now, reused.now]
    omega

/-- A token bucket or a leaky one is built, and then callers take drops from it, time passes and
jumps, and the filling may be stopped, in any order. The tally beside it is that of a bucket for
which time visits every whole millisecond that it passes, and the ends of its jumps. -/
theorem bucket_throughput {plan : LimiterPlan} {capacity initial : Nat} {period : Duration}
    (bucket : plan = .tokenBucket capacity period initial ∨
      plan = .leakyBucket capacity period initial)
    (running : world.hasRuntime = true) (idle : world.Idle) (uses further : List BucketUse) :
    ∃ ref built, world.build plan none = (.ok ref, built) ∧
      built.Throughput ref (.ofSettings capacity period initial world.now) uses further := by
  obtain ⟨ref, built, same, mirrors⟩ := mirrors_build bucket running idle
  exact ⟨ref, built, same,
    mirrors.throughput rfl ⟨rfl, rfl⟩ (Nat.min_le_right _ _) uses further⟩

/-- A period need not be a whole number of milliseconds. -/
theorem bucket_throughput_fraction :
    initial.hasRuntime = true ∧ initial.Idle ∧
      ∃ ref built, initial.build (.tokenBucket 3 ⟨1500000⟩ 1) none = (.ok ref, built) ∧
        built.Throughput ref (.ofSettings 3 ⟨1500000⟩ 1 0)
          [.attempt, .sleep 4, .attempt, .attempt, .jump 20, .ask {}] [.sleep 2, .attempt] := by
  have running : initial.hasRuntime = true := rfl
  have idle : initial.Idle := by simp [Idle, initial]
  exact ⟨running, idle, bucket_throughput (.inl rfl) running idle _ _⟩

end World

end AdmissionControl
