import AdmissionControl.Proofs.Bucket.RetryHint
/-!
A bucket loses no fill while time stops at every millisecond. It is then filled like a cistern into
which a drop falls at the end of each period since it was built, whatever the fills before it did to
the moment for which the bucket waits.
-/

namespace AdmissionControl

inductive SteadyUse where
  | ask (context : Context)
  | attempt
  | sleep (millis : Nat)

def SteadyUse.toUse : SteadyUse → BucketUse
  | .ask context => .ask context
  | .attempt => .attempt
  | .sleep millis => .sleep millis

/-- A cistern with `level` drops in it. A drop falls in with every period that ends, all of them
counted from the millisecond `start`. -/
structure Cistern where
  capacity : Nat
  period : Duration
  start : Nat
  now : Nat
  level : Nat

namespace Cistern

/-- The whole millisecond at which the drop of a period, the first being number one, falls in: the
first that does not lie before the end of that period. -/
def arrival (cistern : Cistern) (number : Nat) : Nat :=
  ceilMilli (cistern.start * Duration.nanosPerMilli + number * cistern.period.nanos)

def passed (cistern : Cistern) : Nat :=
  (cistern.now - cistern.start) * Duration.nanosPerMilli / cistern.period.nanos

def next (cistern : Cistern) : Cistern := { cistern with now := cistern.now + 1 }

/-- The numbers of the drops that fall in now. -/
def drips (cistern : Cistern) : List Nat :=
  (List.range' 1 cistern.passed).filter fun number => cistern.arrival number = cistern.now

def drip (cistern : Cistern) : Cistern :=
  { cistern with
    level := if cistern.level < cistern.capacity then cistern.level + 1 else cistern.level }

def tick (cistern : Cistern) : Cistern :=
  cistern.next.drips.foldl (fun filled _ => filled.drip) cistern.next

def wait (cistern : Cistern) : Nat → Cistern
  | 0 => cistern
  | millis + 1 => cistern.tick.wait millis

/-- Whether a drop is taken. A caller who has gone takes nothing. -/
def yields (tokens : Table Token) (cistern : Cistern) : SteadyUse → Bool
  | .ask context => (context.abandoned? tokens cistern.now).isNone && decide (0 < cistern.level)
  | .attempt => decide (0 < cistern.level)
  | .sleep _ => false

def use (tokens : Table Token) (cistern : Cistern) (use : SteadyUse) : Cistern :=
  let drawn := if cistern.yields tokens use then { cistern with level := cistern.level - 1 }
    else cistern
  match use with
  | .sleep millis => drawn.wait millis
  | _ => drawn

def useAll (tokens : Table Token) (cistern : Cistern) (uses : List SteadyUse) : Cistern :=
  uses.foldl (use tokens) cistern

def drawn (tokens : Table Token) (cistern : Cistern) : List SteadyUse → Nat
  | [] => 0
  | use :: rest =>
    (if cistern.yields tokens use then 1 else 0) + (cistern.use tokens use).drawn tokens rest

variable {cistern : Cistern} {tokens : Table Token}

private theorem arrival_le {number : Nat} (begun : cistern.start ≤ cistern.now)
    (positive : 0 < cistern.period.nanos) :
    cistern.arrival number ≤ cistern.now ↔ number ≤ cistern.passed := by
  rw [passed, Nat.le_div_iff_mul_le positive, ← Nat.not_lt, arrival, lt_ceilMilli, Nat.not_lt,
    Nat.sub_mul]
  have rising := Nat.mul_le_mul_right Duration.nanosPerMilli begun
  omega

example : (Cistern.mk 9 ⟨400000⟩ 0 2 0).drips = [3, 4, 5] := by decide

private theorem passed_le_next (cistern : Cistern) : cistern.passed ≤ cistern.next.passed := by
  apply Nat.div_le_div_right
  apply Nat.mul_le_mul_right
  exact Nat.sub_le_sub_right (Nat.le_succ _) _

/-- The drops of a millisecond are those of the periods that end with it. -/
theorem drips_next (begun : cistern.start ≤ cistern.now) (positive : 0 < cistern.period.nanos) :
    cistern.next.drips =
      List.range' (1 + cistern.passed) (cistern.next.passed - cistern.passed) := by
  have rising := cistern.passed_le_next
  have begun' : cistern.next.start ≤ cistern.next.now := Nat.le_succ_of_le begun
  have split : List.range' 1 cistern.next.passed =
      List.range' 1 cistern.passed ++
        List.range' (1 + cistern.passed) (cistern.next.passed - cistern.passed) := by
    rw [List.range'_append_1, Nat.add_sub_cancel' rising]
  have earlier : (List.range' 1 cistern.passed).filter
      (fun number => cistern.next.arrival number = cistern.next.now) = [] := by
    rw [List.filter_eq_nil_iff]
    intro number member
    rw [List.mem_range'_1] at member
    have gone := (arrival_le begun positive).mpr (by omega : number ≤ cistern.passed)
    have same : cistern.next.arrival number = cistern.arrival number := rfl
    have later : cistern.next.now = cistern.now + 1 := rfl
    rw [decide_eq_true_eq, same, later]
    omega
  have ending : (List.range' (1 + cistern.passed) (cistern.next.passed - cistern.passed)).filter
      (fun number => cistern.next.arrival number = cistern.next.now) =
        List.range' (1 + cistern.passed) (cistern.next.passed - cistern.passed) := by
    rw [List.filter_eq_self]
    intro number member
    rw [List.mem_range'_1] at member
    have reached := (arrival_le begun' positive).mpr
      (by omega : number ≤ cistern.next.passed)
    have ahead : ¬ cistern.arrival number ≤ cistern.now := by
      rw [arrival_le begun positive]
      omega
    have same : cistern.next.arrival number = cistern.arrival number := rfl
    have later : cistern.next.now = cistern.now + 1 := rfl
    rw [same, later] at reached
    rw [decide_eq_true_eq, same, later]
    omega
  rw [drips, split, List.filter_append, earlier, ending, List.nil_append]

private theorem foldl_drip (within : cistern.level ≤ cistern.capacity) (numbers : List Nat) :
    numbers.foldl (fun filled _ => filled.drip) cistern =
      { cistern with level := min cistern.capacity (cistern.level + numbers.length) } := by
  induction numbers generalizing cistern with
  | nil => simp [Nat.min_eq_right within]
  | cons number rest ih =>
    have room : cistern.drip.level ≤ cistern.drip.capacity := by
      simp only [drip]
      split <;> omega
    rw [List.foldl_cons, ih room]
    simp only [drip, mk.injEq, true_and, List.length_cons]
    split <;> omega

private theorem tick_eq (begun : cistern.start ≤ cistern.now) (positive : 0 < cistern.period.nanos)
    (within : cistern.level ≤ cistern.capacity) :
    cistern.tick =
      { cistern.next with
        level := min cistern.capacity
          (cistern.level + (cistern.next.passed - cistern.passed)) } := by
  rw [tick, drips_next begun positive]
  have room : cistern.next.level ≤ cistern.next.capacity := within
  rw [foldl_drip room, List.length_range']
  rfl

/-- Nobody has taken a drop since the first period began. So many are there as were there first and
have fallen in since, if there is room. -/
structure Undrawn (first later : Cistern) : Prop where
  capacity : later.capacity = first.capacity
  period : later.period = first.period
  start : later.start = first.start
  begun : later.start ≤ later.now
  period_pos : 0 < later.period.nanos
  level : later.level = min first.capacity (first.level + later.passed)

namespace Undrawn

variable {first : Cistern}

private theorem tick (undrawn : first.Undrawn cistern) : first.Undrawn cistern.tick := by
  obtain ⟨capacity, period, start, begun, positive, level⟩ := undrawn
  have rising := cistern.passed_le_next
  rw [tick_eq begun positive (level ▸ capacity ▸ Nat.min_le_left _ _)]
  constructor
  case capacity => exact capacity
  case period => exact period
  case start => exact start
  case begun => exact Nat.le_succ_of_le begun
  case period_pos => exact positive
  case level =>
    change min cistern.capacity (cistern.level + (cistern.next.passed - cistern.passed)) =
      min first.capacity (first.level + cistern.next.passed)
    omega

private theorem wait (undrawn : first.Undrawn cistern) (millis : Nat) :
    first.Undrawn (cistern.wait millis) := by
  induction millis generalizing cistern with
  | zero => exact undrawn
  | succ millis ih => exact ih undrawn.tick

private theorem use (undrawn : first.Undrawn cistern) {use : SteadyUse}
    (nothing : cistern.yields tokens use = false) : first.Undrawn (cistern.use tokens use) := by
  simp only [Cistern.use, nothing, Bool.false_eq_true, if_false]
  cases use with
  | ask context => exact undrawn
  | attempt => exact undrawn
  | sleep millis => exact undrawn.wait millis

private theorem useAll (undrawn : first.Undrawn cistern) {uses : List SteadyUse}
    (nothing : cistern.drawn tokens uses = 0) : first.Undrawn (cistern.useAll tokens uses) := by
  induction uses generalizing cistern with
  | nil => exact undrawn
  | cons use rest ih =>
    rw [drawn, Nat.add_eq_zero_iff] at nothing
    exact ih (undrawn.use (by simpa using nothing.1)) nothing.2

end Undrawn

end Cistern

namespace Bucket

/-- Where none of the fills is late they happen once for each period that has ended. `first` is
where the periods begin, and `done` is how many of them have had their fill. -/
theorem fillAll_punctual {bucket : Bucket} {now first done : Nat}
    (due : bucket.due = first + (done + 1) * bucket.period.nanos)
    (punctual : now ≤ bucket.due + tolerance) (begun : first + done * bucket.period.nanos ≤ now)
    (within : bucket.level ≤ bucket.capacity) :
    (bucket.fillAll now).level = min bucket.capacity
        (bucket.level + ((now - first) / bucket.period.nanos - done)) ∧
      (bucket.fillAll now).due =
        first + ((now - first) / bucket.period.nanos + 1) * bucket.period.nanos := by
  -- Each fill that happens is one more that is done, so the periods that ended are counted down.
  fun_induction fillAll bucket now generalizing done with
  | case1 bucket reached ih =>
    have onTime : ¬ bucket.due + tolerance < now := Nat.not_lt.mpr punctual
    have further : done + 1 ≤ (now - first) / bucket.period.nanos := by
      rw [Nat.le_div_iff_mul_le bucket.period_pos]
      omega
    have next : (bucket.fill now).due = bucket.due + bucket.period.nanos := by
      simp only [fill, onTime, if_false]
    have gained : (bucket.fill now).level = min bucket.capacity (bucket.level + 1) := by
      simp only [fill]
      split <;> omega
    have period : (bucket.fill now).period = bucket.period := rfl
    have capacity : (bucket.fill now).capacity = bucket.capacity := rfl
    simp only [next, gained, period, capacity] at ih
    have moved : bucket.due + bucket.period.nanos =
        first + (done + 1 + 1) * bucket.period.nanos := by
      rw [due, Nat.add_mul (done + 1) 1, Nat.one_mul, Nat.add_assoc]
    obtain ⟨level, due'⟩ := ih moved (by omega) (by omega) (Nat.min_le_left _ _)
    refine ⟨?_, due'⟩
    rw [level]
    omega
  | case2 bucket early =>
    have none : (now - first) / bucket.period.nanos = done := by
      rw [Nat.div_eq_iff bucket.period_pos]
      rw [due, Nat.add_mul, Nat.one_mul] at early
      omega
    rw [none, Nat.sub_self, Nat.add_zero, Nat.min_eq_right within, ← due]
    exact ⟨rfl, rfl⟩

end Bucket

variable {world : World} {ref : Ref Limiter} {tokens : Table Token} {tally : Tally}
  {cistern : Cistern}

/-- The bucket of a tally stands like a cistern, and waits for the end of the period that it is
in. -/
structure Tally.Tracks (tally : Tally) (cistern : Cistern) : Prop where
  running : tally.bucket.shutDown = false
  capacity : tally.bucket.capacity = cistern.capacity
  period : tally.bucket.period = cistern.period
  begun : cistern.start ≤ cistern.now
  now : tally.now = cistern.now
  level : tally.bucket.level = cistern.level
  within : cistern.level ≤ cistern.capacity
  due : tally.bucket.due =
    cistern.start * Duration.nanosPerMilli + (cistern.passed + 1) * cistern.period.nanos

namespace Tally.Tracks

private theorem tick (tracks : tally.Tracks cistern) :
    (tally.visit (tally.now + 1)).Tracks cistern.tick := by
  obtain ⟨running, capacity, period, begun, now, level, within, due⟩ := tracks
  have positive : 0 < cistern.period.nanos := period ▸ tally.bucket.period_pos
  let first := cistern.start * Duration.nanosPerMilli
  let moment := (tally.now + 1) * Duration.nanosPerMilli
  have past : moment = cistern.now * Duration.nanosPerMilli + Duration.nanosPerMilli := by
    simp only [moment, now, Nat.succ_mul]
  have elapsed : moment - first =
      (cistern.next.now - cistern.start) * Duration.nanosPerMilli := by
    simp only [moment, first, now, ← Nat.sub_mul]
    rfl
  have whole : cistern.passed * cistern.period.nanos ≤
      (cistern.now - cistern.start) * Duration.nanosPerMilli := Nat.div_mul_le_self _ _
  have ahead : (cistern.now - cistern.start) * Duration.nanosPerMilli <
      cistern.passed * cistern.period.nanos + cistern.period.nanos :=
    Nat.lt_div_mul_add positive
  have rising : first ≤ cistern.now * Duration.nanosPerMilli :=
    Nat.mul_le_mul_right Duration.nanosPerMilli begun
  rw [Nat.sub_mul] at whole ahead
  have due' : tally.bucket.due =
      first + (cistern.passed + 1) * tally.bucket.period.nanos := by rw [due, period]
  have punctual : moment ≤ tally.bucket.due + Bucket.tolerance := by
    have tolerant : Duration.nanosPerMilli ≤ Bucket.tolerance := Nat.le_mul_of_pos_left _ (by decide)
    rw [due, Nat.succ_mul]
    omega
  have begun' : first + cistern.passed * tally.bucket.period.nanos ≤ moment := by
    rw [period]
    omega
  obtain ⟨gained, moved⟩ := Bucket.fillAll_punctual due' punctual begun' (by omega)
  rw [elapsed, period] at gained moved
  rw [capacity, level] at gained
  have visited : (tally.visit (tally.now + 1)).bucket = tally.bucket.fillAll moment := by
    simp [Tally.visit, Bucket.visit, running, moment]
  have filled := tally.bucket.filled moment
  rw [Cistern.tick_eq begun positive within]
  constructor
  case running => rw [visited, filled.shutDown, running]
  case capacity => rw [visited, filled.capacity, capacity]; rfl
  case period => rw [visited, filled.period, period]; rfl
  case begun => exact Nat.le_succ_of_le begun
  case now => exact congrArg (· + 1) now
  case level => rw [visited, gained]; rfl
  case within => exact Nat.min_le_left _ _
  case due => rw [visited, moved]; rfl

private theorem wait (tracks : tally.Tracks cistern) (millis : Nat) :
    (tally.wait millis).Tracks (cistern.wait millis) := by
  induction millis generalizing tally cistern with
  | zero => exact tracks
  | succ millis ih => exact ih tracks.tick

private theorem use (tracks : tally.Tracks cistern) (tokens : Table Token) (use : SteadyUse) :
    (tally.use tokens use.toUse).Tracks (cistern.use tokens use) ∧
      (tally.use tokens use.toUse).takes =
        tally.takes + if cistern.yields tokens use then 1 else 0 := by
  have taken (some : 0 < cistern.level) :
      tally.take.Tracks { cistern with level := cistern.level - 1 } ∧
        tally.take.takes = tally.takes + 1 := by
    have possible : tally.bucket.shutDown = false ∧ 0 < tally.bucket.level := by
      rw [tracks.level]
      exact ⟨tracks.running, some⟩
    rw [Tally.take, if_pos possible]
    refine ⟨?_, rfl⟩
    constructor
    case running => exact tracks.running
    case capacity => exact tracks.capacity
    case period => exact tracks.period
    case begun => exact tracks.begun
    case now => exact tracks.now
    case level => exact congrArg (· - 1) tracks.level
    case within => exact Nat.le_trans (Nat.sub_le _ _) tracks.within
    case due => exact tracks.due
  have refused (none : ¬ 0 < cistern.level) : tally.take = tally := by
    rw [Tally.take, if_neg]
    rintro ⟨-, some⟩
    exact none (tracks.level ▸ some)
  cases use with
  | ask context =>
    simp only [SteadyUse.toUse, Tally.use, Cistern.use, Cistern.yields, tracks.now]
    by_cases present : context.abandoned? tokens cistern.now = none
    · by_cases some : 0 < cistern.level
      · simpa [present, some] using taken some
      · simpa [present, some, refused some] using tracks
    · simpa [present] using tracks
  | attempt =>
    simp only [SteadyUse.toUse, Tally.use, Cistern.use, Cistern.yields]
    by_cases some : 0 < cistern.level
    · simpa [some] using taken some
    · simpa [some, refused some] using tracks
  | sleep millis => exact ⟨tracks.wait millis, tally.wait_takes millis⟩

private theorem useAll (tracks : tally.Tracks cistern) (tokens : Table Token)
    (uses : List SteadyUse) :
    (tally.useAll tokens (uses.map SteadyUse.toUse)).Tracks (cistern.useAll tokens uses) ∧
      (tally.useAll tokens (uses.map SteadyUse.toUse)).takes =
        tally.takes + cistern.drawn tokens uses := by
  induction uses generalizing tally cistern with
  | nil => exact ⟨tracks, rfl⟩
  | cons use rest ih =>
    obtain ⟨first, taken⟩ := tracks.use tokens use
    obtain ⟨all, more⟩ := ih first
    refine ⟨all, ?_⟩
    rw [taken, Nat.add_assoc] at more
    exact more

end Tally.Tracks

def Cistern.ofTally (tally : Tally) : Cistern where
  capacity := tally.bucket.capacity
  period := tally.bucket.period
  start := tally.now
  now := tally.now
  level := tally.bucket.level

private theorem Tally.tracks_ofTally (running : tally.bucket.shutDown = false)
    (first : tally.bucket.due =
      tally.now * Duration.nanosPerMilli + tally.bucket.period.nanos)
    (within : tally.bucket.level ≤ tally.bucket.capacity) : tally.Tracks (.ofTally tally) where
  running := running
  capacity := rfl
  period := rfl
  begun := Nat.le_refl _
  now := rfl
  level := rfl
  within := within
  due := by simp [first, Cistern.ofTally, Cistern.passed]

private theorem Cistern.undrawn_ofTally (within : tally.bucket.level ≤ tally.bucket.capacity) :
    (Cistern.ofTally tally).Undrawn (.ofTally tally) where
  capacity := rfl
  period := rfl
  start := rfl
  begun := Nat.le_refl _
  period_pos := tally.bucket.period_pos
  level := by simp [Cistern.ofTally, Cistern.passed, Nat.min_eq_right within]

namespace World

/-- A bucket that was built beside a cistern and used while time moved on by sleeping only stands
like the cistern. Whoever tries next takes a drop from both or from neither. As long as nobody has
taken any, there are as many as were there first and as periods have passed since, if there is
room. -/
structure FillsLike (built : World) (ref : Ref Limiter) (cistern : Cistern)
    (uses : List SteadyUse) : Prop where
  level : ((built.useAll ref (uses.map SteadyUse.toUse)).2.limiters.get ref).bucket?.map
      (·.level) = some (cistern.useAll built.tokens uses).level
  yields : ∀ next : SteadyUse,
    ((built.useAll ref (uses.map SteadyUse.toUse)).2.use ref next.toUse).1 =
      if (cistern.useAll built.tokens uses).yields built.tokens next then 1 else 0
  undrawn : (built.useAll ref (uses.map SteadyUse.toUse)).1 = 0 →
    (cistern.useAll built.tokens uses).level =
      min cistern.capacity (cistern.level +
        ((built.useAll ref (uses.map SteadyUse.toUse)).2.now - cistern.start) *
          Duration.nanosPerMilli / cistern.period.nanos)

private theorem Mirrors.fillsLike (mirrors : world.Mirrors ref tokens tally)
    (tracks : tally.Tracks (.ofTally tally)) (untaken : tally.takes = 0)
    (uses : List SteadyUse) : world.FillsLike ref (.ofTally tally) uses := by
  obtain rfl := mirrors.tokens
  obtain ⟨used, counted⟩ := mirrors.useAll (uses.map SteadyUse.toUse)
  obtain ⟨tracked, taken⟩ := tracks.useAll world.tokens uses
  constructor
  case level => rw [used.bucket, Option.map_some, tracked.level]
  case yields =>
    intro next
    have drawn := (tracked.use world.tokens next).2
    have one := (used.use next.toUse).2
    omega
  case undrawn =>
    intro nothing
    have none : (Cistern.ofTally tally).drawn world.tokens uses = 0 := by omega
    have undrawn := (Cistern.undrawn_ofTally tracks.within).useAll none
    rw [undrawn.level, used.now, tracked.now, Cistern.passed, undrawn.start, undrawn.period]

/-- A token bucket or a leaky one is built and used, and time moves on by sleeping only. Then it
stands at any time like a cistern into which a drop falls at the first whole millisecond that does
not lie before the end of a period. -/
theorem bucket_fillsLike {plan : LimiterPlan} {capacity initial : Nat} {period : Duration}
    (bucket : plan = .tokenBucket capacity period initial ∨
      plan = .leakyBucket capacity period initial)
    (running : world.hasRuntime = true) (idle : world.Idle) (uses : List SteadyUse) :
    ∃ ref built, world.build plan none = (.ok ref, built) ∧
      built.FillsLike ref (.ofTally (.ofSettings capacity period initial world.now)) uses := by
  obtain ⟨ref, built, made, mirrors⟩ := mirrors_build bucket running idle
  exact ⟨ref, built, made, mirrors.fillsLike
    (Tally.tracks_ofTally rfl rfl (Nat.min_le_right _ _)) rfl uses⟩

/-- A period of a millisecond and a half ends between two milliseconds every other time, and fills
find no room for a while. -/
theorem bucket_fillsLike_fraction :
    let uses : List SteadyUse := [.attempt, .sleep 2, .attempt, .ask {}, .attempt, .sleep 13]
    let cistern := Cistern.ofTally (.ofSettings 3 ⟨1500000⟩ 5 0)
    (initial.hasRuntime = true ∧ initial.Idle) ∧
      (cistern.useAll {} uses).level = 3 ∧
      ∃ ref built, initial.build (.tokenBucket 3 ⟨1500000⟩ 5) none = (.ok ref, built) ∧
        built.FillsLike ref cistern uses := by
  intro uses cistern
  have running : initial.hasRuntime = true := rfl
  have idle : initial.Idle := by simp [Idle, initial]
  have level : (cistern.useAll {} uses).level = 3 := by decide +kernel
  exact ⟨⟨running, idle⟩, level, bucket_fillsLike (.inl rfl) running idle uses⟩

end World

end AdmissionControl
