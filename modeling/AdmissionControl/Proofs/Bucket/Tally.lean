import Mathlib.Algebra.Order.Floor.Div
import AdmissionControl.Limiter.Bucket
/-!
A bucket with the count of what went into it and out of it, while time visits whole milliseconds.
Each fill was due a whole number of periods after the bucket began, and no two fills were due at
the same moment, so that there are no more of them than periods have passed.
-/

namespace AdmissionControl

namespace Bucket

def gains (bucket : Bucket) (now : Nat) : Nat :=
  if bucket.due ≤ now then
    (if bucket.level < bucket.capacity then 1 else 0) + (bucket.fill now).gains now
  else 0
termination_by now + 1 - bucket.due
decreasing_by
  have later := due_lt_fill bucket now
  omega

theorem fillAll_early {bucket : Bucket} {now : Nat} (early : now < bucket.due) :
    bucket.fillAll now = bucket := by
  rw [fillAll, if_neg (Nat.not_le.mpr early)]

theorem gains_early {bucket : Bucket} {now : Nat} (early : now < bucket.due) :
    bucket.gains now = 0 := by
  rw [gains, if_neg (Nat.not_le.mpr early)]

/-- The next fill is due a whole number of periods after this one, and no more than one period
after the last moment that is past. -/
theorem fill_due {bucket : Bucket} {now : Nat} (reached : bucket.due ≤ now) :
    ∃ periods, (bucket.fill now).due = bucket.due + (periods + 1) * bucket.period.nanos ∧
      bucket.due + periods * bucket.period.nanos ≤ now := by
  by_cases late : bucket.due + tolerance < now
  · refine ⟨(now - bucket.due) / bucket.period.nanos, ?_, ?_⟩
    · have split := Nat.div_add_mod' (now - bucket.due) bucket.period.nanos
      have small := Nat.mod_lt (now - bucket.due) bucket.period_pos
      simp only [fill, late, if_true, Nat.add_mul, Nat.one_mul]
      omega
    · have whole := Nat.div_mul_le_self (now - bucket.due) bucket.period.nanos
      omega
  · refine ⟨0, ?_, ?_⟩
    · simp [fill, late]
    · simpa using reached

structure Filled (bucket : Bucket) (now : Nat) : Prop where
  capacity : (bucket.fillAll now).capacity = bucket.capacity
  period : (bucket.fillAll now).period = bucket.period
  shutDown : (bucket.fillAll now).shutDown = bucket.shutDown
  level : (bucket.fillAll now).level = bucket.level + bucket.gains now
  within : bucket.level ≤ bucket.capacity → (bucket.fillAll now).level ≤ bucket.capacity
  due : ∃ periods, (bucket.fillAll now).due = bucket.due + periods * bucket.period.nanos ∧
    bucket.gains now ≤ periods ∧
    (0 < periods → bucket.due + periods * bucket.period.nanos ≤ now + bucket.period.nanos)

theorem filled (bucket : Bucket) (now : Nat) : bucket.Filled now := by
  fun_induction fillAll bucket now with
  | case1 bucket reached ih =>
    obtain ⟨capacity, period, shutDown, level, within, more, moved, counted, past⟩ := ih
    obtain ⟨periods, due, visited⟩ := fill_due reached
    have same : (bucket.fill now).period = bucket.period := rfl
    have next : bucket.fillAll now = (bucket.fill now).fillAll now := by
      rw [fillAll, if_pos reached]
    have gained : bucket.gains now =
        (if bucket.level < bucket.capacity then 1 else 0) + (bucket.fill now).gains now := by
      rw [gains, if_pos reached]
    rw [same] at moved past
    constructor
    case capacity => rw [next, capacity]; rfl
    case period => rw [next, period]; rfl
    case shutDown => rw [next, shutDown]; rfl
    case level =>
      rw [next, level, gained]
      simp only [fill]
      split <;> omega
    case within =>
      intro room
      rw [next]
      refine within ?_
      simp only [fill]
      split <;> omega
    case due =>
      refine ⟨periods + 1 + more, ?_, ?_, ?_⟩
      · rw [next, moved, due, Nat.add_mul _ more, Nat.add_assoc]
      · rw [gained]
        split <;> omega
      · intro _
        rw [Nat.add_mul _ more, ← Nat.add_assoc, ← due]
        by_cases last : more = 0
        · rw [last, due, Nat.add_mul]
          omega
        · exact past (Nat.pos_of_ne_zero last)
  | case2 bucket early =>
    have early := Nat.not_le.mp early
    have still := fillAll_early early
    have nothing := gains_early early
    refine ⟨by rw [still], by rw [still], by rw [still], by rw [still, nothing]; rfl, ?_, 0, ?_⟩
    · rw [still]
      exact id
    · rw [still, nothing]
      simp

end Bucket

/-- A bucket, the millisecond that it has come to, how many fills found room so far, and how many
drops were taken. -/
structure Tally where
  bucket : Bucket
  now : Nat
  fills : Nat := 0
  takes : Nat := 0

namespace Tally

def visit (tally : Tally) (moment : Nat) : Tally where
  bucket := tally.bucket.visit moment
  now := moment
  fills :=
    if tally.bucket.shutDown then tally.fills
    else tally.fills + tally.bucket.gains (moment * Duration.nanosPerMilli)
  takes := tally.takes

/-- Time visits every millisecond on its way, so many of them. -/
def wait (tally : Tally) : Nat → Tally
  | 0 => tally
  | millis + 1 => (tally.visit (tally.now + 1)).wait millis

def take (tally : Tally) : Tally :=
  if tally.bucket.shutDown = false ∧ 0 < tally.bucket.level then
    { tally with
      bucket := { tally.bucket with level := tally.bucket.level - 1 }
      takes := tally.takes + 1 }
  else tally

def shutdown (tally : Tally) : Tally := { tally with bucket := tally.bucket.shutdown }

/-- What is kept while a bucket is in use. Every drop that is there or was taken was there before or
came with a fill, and none is over. The next fill moves on by whole periods, at least one for each
fill that happened, and never past the first moment ahead. -/
structure Becomes (tally later : Tally) : Prop where
  capacity : later.bucket.capacity = tally.bucket.capacity
  period : later.bucket.period = tally.bucket.period
  rising : tally.now ≤ later.now
  drops : later.bucket.level + later.takes + tally.fills =
    tally.bucket.level + tally.takes + later.fills
  within : tally.bucket.level ≤ tally.bucket.capacity →
    later.bucket.level ≤ tally.bucket.capacity
  due : ∃ periods, later.bucket.due = tally.bucket.due + periods * tally.bucket.period.nanos ∧
    later.fills ≤ tally.fills + periods ∧
    (0 < periods → tally.bucket.due + periods * tally.bucket.period.nanos ≤
      later.now * Duration.nanosPerMilli + tally.bucket.period.nanos)
  ended : tally.bucket.shutDown = true → later.bucket = tally.bucket

namespace Becomes

variable {tally middle later : Tally}

theorem refl (tally : Tally) : tally.Becomes tally where
  capacity := rfl
  period := rfl
  rising := Nat.le_refl _
  drops := rfl
  within := id
  due := ⟨0, by simp, by simp, by simp⟩
  ended := fun _ => rfl

theorem trans (first : tally.Becomes middle) (second : middle.Becomes later) :
    tally.Becomes later where
  capacity := second.capacity.trans first.capacity
  period := second.period.trans first.period
  rising := Nat.le_trans first.rising second.rising
  drops := by
    have one := first.drops
    have other := second.drops
    omega
  within full := by
    have reached := first.within full
    rw [← first.capacity] at reached ⊢
    exact second.within reached
  due := by
    obtain ⟨earlier, moved, counted, past⟩ := first.due
    obtain ⟨further, moved', counted', past'⟩ := second.due
    rw [first.period] at moved' past'
    have rising := Nat.mul_le_mul_right Duration.nanosPerMilli second.rising
    refine ⟨earlier + further, ?_, by omega, ?_⟩
    · rw [moved', moved, Nat.add_mul, Nat.add_assoc]
    · intro some
      rw [Nat.add_mul, ← Nat.add_assoc, ← moved]
      by_cases still : further = 0
      · have reached := past (by omega)
        rw [still, moved]
        omega
      · exact past' (Nat.pos_of_ne_zero still)
  ended stopped := by
    have same := first.ended stopped
    exact (second.ended (same ▸ stopped)).trans same

theorem take (tally : Tally) : tally.Becomes tally.take := by
  unfold Tally.take
  split
  · next free =>
    obtain ⟨running, some⟩ := free
    refine ⟨rfl, rfl, Nat.le_refl _, ?_, ?_, ⟨0, by simp, by simp, by simp⟩, ?_⟩
    · simp only []
      omega
    · intro within
      exact Nat.le_trans (Nat.sub_le _ _) within
    · intro stopped
      rw [running] at stopped
      cases stopped
  · exact refl tally

theorem shutdown (tally : Tally) : tally.Becomes tally.shutdown where
  capacity := rfl
  period := rfl
  rising := Nat.le_refl _
  drops := rfl
  within := id
  due := ⟨0, by simp [Tally.shutdown, Bucket.shutdown], by simp [Tally.shutdown], by simp⟩
  ended stopped := by
    simp only [Tally.shutdown, Bucket.shutdown, ← stopped]

theorem visit (tally : Tally) {moment : Nat} (rising : tally.now ≤ moment) :
    tally.Becomes (tally.visit moment) := by
  by_cases stopped : tally.bucket.shutDown = true
  · have still : tally.visit moment = { tally with now := moment } := by
      simp [Tally.visit, Bucket.visit, stopped]
    rw [still]
    exact ⟨rfl, rfl, rising, rfl, id, ⟨0, by simp, by simp, by simp⟩, fun _ => rfl⟩
  · have filled := tally.bucket.filled (moment * Duration.nanosPerMilli)
    have visited : tally.visit moment =
        { bucket := tally.bucket.fillAll (moment * Duration.nanosPerMilli)
          now := moment
          fills := tally.fills + tally.bucket.gains (moment * Duration.nanosPerMilli)
          takes := tally.takes } := by
      simp [Tally.visit, Bucket.visit, stopped]
    obtain ⟨periods, moved, counted, past⟩ := filled.due
    have level := filled.level
    rw [visited]
    refine ⟨filled.capacity, filled.period, rising, ?_, filled.within,
      ⟨periods, moved, Nat.add_le_add_left counted _, past⟩, fun ended => absurd ended stopped⟩
    simp only []
    omega

theorem wait (tally : Tally) (millis : Nat) : tally.Becomes (tally.wait millis) := by
  induction millis generalizing tally with
  | zero => exact refl tally
  | succ millis ih => exact (visit tally (Nat.le_succ _)).trans (ih _)

/-- Fills are a period apart, so that no more of them have happened than periods have passed since
the bucket began. -/
theorem takes_le (begun : tally.Becomes later)
    (first : tally.bucket.due = tally.now * Duration.nanosPerMilli + tally.bucket.period.nanos)
    (unused : tally.fills = 0 ∧ tally.takes = 0) :
    later.takes ≤ tally.bucket.level +
      (later.now - tally.now) * Duration.nanosPerMilli / tally.bucket.period.nanos := by
  obtain ⟨periods, moved, counted, past⟩ := begun.due
  have drops := begun.drops
  obtain ⟨unfilled, untaken⟩ := unused
  have passed : periods ≤
      (later.now - tally.now) * Duration.nanosPerMilli / tally.bucket.period.nanos := by
    rw [Nat.le_div_iff_mul_le tally.bucket.period_pos, Nat.sub_mul]
    by_cases none : periods = 0
    · simp [none]
    · have reached := past (Nat.pos_of_ne_zero none)
      omega
  omega

/-- Between two moments no more drops are taken than were there at the first and than fills are due
in between. The first fill may be due right after the first moment. -/
theorem takes_between_le (passed : tally.Becomes later)
    (ahead : tally.bucket.shutDown = false →
      tally.now * Duration.nanosPerMilli < tally.bucket.due) :
    later.takes - tally.takes ≤ tally.bucket.level +
      (later.now - tally.now) * Duration.nanosPerMilli ⌈/⌉ tally.bucket.period.nanos := by
  obtain ⟨periods, moved, counted, past⟩ := passed.due
  have drops := passed.drops
  have spaced : periods ≤
      (later.now - tally.now) * Duration.nanosPerMilli ⌈/⌉ tally.bucket.period.nanos := by
    by_contra more
    have fewer : (later.now - tally.now) * Duration.nanosPerMilli ⌈/⌉ tally.bucket.period.nanos ≤
        periods - 1 := by omega
    rw [ceilDiv_le_iff_le_mul tally.bucket.period_pos, Nat.mul_sub, Nat.mul_comm _ periods,
      Nat.sub_mul, Nat.mul_one] at fewer
    have reached := past (by omega)
    have positive := tally.bucket.period_pos
    by_cases stopped : tally.bucket.shutDown = true
    · have still : later.bucket.due = tally.bucket.due := by rw [passed.ended stopped]
      have whole : 0 < periods * tally.bucket.period.nanos := Nat.mul_pos (by omega) positive
      omega
    · have ahead := ahead (by simpa using stopped)
      have whole := Nat.le_mul_of_pos_left tally.bucket.period.nanos (by omega : 0 < periods)
      omega
  omega

end Becomes

end Tally

end AdmissionControl
