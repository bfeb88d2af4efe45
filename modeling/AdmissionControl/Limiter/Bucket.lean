import AdmissionControl.Settings
/-!
Buckets that fill up at a steady rate and from which each request takes one drop. Token buckets
and leaky buckets are the same but for the names and for the level at the start.

A bucket knows when its next fill is due. Fills happen at the whole milliseconds that time visits.
Where it visits too few of them fills are late.
-/

namespace AdmissionControl

/-- The largest number of drops that a bucket can hold: an eighth of the values of a word. -/
def maxDrops : Nat := UInt64.size / 8 - 1

/-- A bucket. `due` is the moment of the next fill, in nanoseconds. -/
structure Bucket where
  capacity : Nat
  period : Duration
  period_pos : 0 < period.nanos
  level : Nat
  due : Nat
  shutDown : Bool := false

instance : Inhabited Bucket where
  default := ⟨Defaults.capacity, Defaults.interval, by decide, 0, Defaults.interval.nanos, false⟩

namespace Bucket

/-- A fill that is no later than this, in nanoseconds, does not move the ones after it. -/
def tolerance : Nat := 5 * Duration.nanosPerMilli

/-- The fill that is due happens at `now`: it adds a drop if there is room. Where it is not late
the next is due one period after it; else the next is due at the first moment past `now` that lies
a whole number of periods after it. -/
def fill (bucket : Bucket) (now : Nat) : Bucket :=
  let period := bucket.period.nanos
  { bucket with
    level := if bucket.level < bucket.capacity then bucket.level + 1 else bucket.level
    due :=
      if bucket.due + tolerance < now then now + period - (now - bucket.due) % period
      else bucket.due + period }

theorem due_lt_fill (bucket : Bucket) (now : Nat) : bucket.due < (bucket.fill now).due := by
  have positive := bucket.period_pos
  have small := Nat.mod_lt (now - bucket.due) positive
  simp only [fill]
  split <;> omega

/-- All fills that are due by `now` happen at `now`. -/
def fillAll (bucket : Bucket) (now : Nat) : Bucket :=
  if bucket.due ≤ now then (bucket.fill now).fillAll now else bucket
termination_by now + 1 - bucket.due
decreasing_by
  have later := due_lt_fill bucket now
  omega

/-- Time visits a whole millisecond. -/
def visit (bucket : Bucket) (now : Nat) : Bucket :=
  if bucket.shutDown then bucket else bucket.fillAll (now * Duration.nanosPerMilli)

theorem lt_due_fillAll (bucket : Bucket) (now : Nat) : now < (bucket.fillAll now).due := by
  fun_induction fillAll bucket now with
  | case1 bucket reached inductionHypothesis => exact inductionHypothesis
  | case2 bucket early => omega

/-- The first whole millisecond at which the next fill can happen. -/
def wake? (bucket : Bucket) : Option Nat :=
  if bucket.shutDown then none else some (ceilMilli bucket.due)

def take (bucket : Bucket) : Bool × Bucket :=
  if 0 < bucket.level then (true, { bucket with level := bucket.level - 1 }) else (false, bucket)

/-- Takes a drop or says why not: the bucket is shut down, or it is empty, which is told by
`empty`. -/
def attempt (bucket : Bucket) (empty : Reason) : Except Reason Unit × Bucket :=
  if bucket.shutDown then (.error .shutDown, bucket)
  else match bucket.take with
    | (true, bucket) => (.ok (), bucket)
    | (false, bucket) => (.error empty, bucket)

/-- An empty bucket hints at the next fill; one that is shut down has no hint to give. -/
def decide (bucket : Bucket) (empty : Reason) : Decision × Bucket :=
  match bucket.attempt empty with
  | (.ok (), bucket) => (.granted, bucket)
  | (.error .shutDown, bucket) => (.refuse .shutDown, bucket)
  | (.error reason, bucket) => (.refuseFor reason bucket.period, bucket)

/-- Ends the filling for good. The level stays as it is. -/
def shutdown (bucket : Bucket) : Bucket := { bucket with shutDown := true }

/-- A bucket whose first fill is due one period from now, with a level that fits into it. Only
where time passes by itself can a bucket be filled, so elsewhere none is built. -/
def new (kind : Kind) (periodSetting : Setting) (capacity : Nat) (period : Duration)
    (initial now : Nat) (hasRuntime : Bool) : Except ConfigError Bucket × List Event :=
  let part := Part.limiter kind
  let counted := normalizeCount part .capacity capacity Defaults.capacity
  let timed := normalizeDuration part periodSetting period Defaults.interval
  let reports := counted.2 ++ timed.2
  if hasRuntime then
    let capacity := min counted.1 maxDrops
    let bucket : Bucket :=
      { capacity, period := timed.1, period_pos := normalizeDuration_pos (by decide)
        level := min initial capacity
        due := now * Duration.nanosPerMilli + timed.1.nanos }
    (.ok bucket, reports ++ [.refillStarted kind capacity timed.1 initial])
  else (.error .noRuntime, reports)

end Bucket

end AdmissionControl
