import AdmissionControl.Proofs.Window.Quota

namespace AdmissionControl

namespace FixedWindow

/-- What has passed of the window when an attempt is made. The first attempt starts the window. -/
def elapsed (limiter : FixedWindow) (now : Nat) : Nat := now - limiter.start.getD now

structure Settled (threshold : Nat) (window : Duration) (latest : Nat) (limiter : FixedWindow) :
    Prop where
  counts : limiter.threshold = threshold
  spans : limiter.window = window
  within : limiter.count ≤ threshold
  begun : ∀ start, limiter.start = some start → start ≤ latest

variable {limiter left : FixedWindow} {threshold latest now : Nat} {window wait : Duration}
  {moments : List Nat}

private theorem attempt_cases (counted : 0 < limiter.threshold) (now : Nat) :
    (∃ left, limiter.attempt now = (.ok (), left) ∧ left.threshold = limiter.threshold ∧
        left.window = limiter.window ∧ left.count ≤ limiter.threshold ∧
        (left.start = some now ∨ left.start = limiter.start)) ∨
      limiter.elapsed now < limiter.window.wholeMillis ∧ limiter.threshold ≤ limiter.count ∧
        limiter.attempt now =
          (.error (.ofMillis (limiter.window.wholeMillis - limiter.elapsed now)),
            { limiter with start := some (limiter.start.getD now) }) := by
  by_cases gone : limiter.window.wholeMillis ≤ limiter.elapsed now
  · left
    have past : limiter.window.wholeMillis ≤ now - limiter.start.getD now := gone
    refine ⟨{ limiter with start := some now, count := 1 }, ?_, rfl, rfl, counted, .inl rfl⟩
    simp [attempt, past, counted]
  · have inside : ¬ limiter.window.wholeMillis ≤ now - limiter.start.getD now := gone
    by_cases room : limiter.count < limiter.threshold
    · left
      refine ⟨{ limiter with start := some (limiter.start.getD now), count := limiter.count + 1 },
        ?_, rfl, rfl, room, ?_⟩
      · simp [attempt, inside, room]
      · cases started : limiter.start with
        | none => exact .inl rfl
        | some start => exact .inr rfl
    · right
      refine ⟨Nat.lt_of_not_le gone, Nat.le_of_not_lt room, ?_⟩
      simp [attempt, inside, room, elapsed]

private theorem Settled.attempt (settled : Settled threshold window latest limiter)
    (counted : 0 < threshold) (past : now ≤ latest) :
    Settled threshold window latest (limiter.attempt now).2 := by
  obtain ⟨counts, spans, within, begun⟩ := settled
  subst counts spans
  obtain ⟨left, passed, counts, spans, fits, started⟩ | ⟨-, -, refused⟩ :=
    attempt_cases counted now
  · rw [passed]
    refine ⟨counts, spans, fits, ?_⟩
    intro start found
    rcases started with fresh | kept
    · cases fresh.symm.trans found
      exact past
    · exact begun start (kept ▸ found)
  · rw [refused]
    refine ⟨rfl, rfl, within, ?_⟩
    rintro start ⟨⟩
    cases started : limiter.start with
    | none => exact past
    | some start => exact begun start started

private theorem Settled.attempts (settled : Settled threshold window latest limiter)
    (counted : 0 < threshold) (past : ∀ now ∈ moments, now ≤ latest) :
    Settled threshold window latest (limiter.attempts moments).2 := by
  induction moments generalizing limiter with
  | nil => exact settled
  | cons now rest ih =>
    rw [List.forall_mem_cons] at past
    exact ih (settled.attempt counted past.1) past.2

private theorem settled_new (threshold : Nat) (window : Duration) (latest : Nat) :
    Settled (new threshold window).1.threshold (new threshold window).1.window latest
      (new threshold window).1 :=
  ⟨rfl, rfl, Nat.zero_le _, nofun⟩

/-- A limiter whose quota is used up in a window that has started. -/
structure Full (start : Nat) (limiter : FixedWindow) : Prop where
  long : 0 < limiter.window.wholeMillis
  counted : 0 < limiter.threshold
  full : limiter.count = limiter.threshold
  started : limiter.start = some start

private theorem Settled.refused (settled : Settled threshold window now limiter)
    (counted : 0 < threshold) (refused : limiter.attempt now = (.error wait, left)) :
    limiter.elapsed now < window.wholeMillis ∧
      wait = .ofMillis (window.wholeMillis - limiter.elapsed now) ∧
      ∃ start, left.Full start ∧ left.window = window ∧
        start + window.wholeMillis = now + (window.wholeMillis - limiter.elapsed now) := by
  obtain ⟨counts, spans, within, begun⟩ := settled
  subst counts spans
  obtain ⟨_, passed, -⟩ | ⟨unspent, full, told⟩ := attempt_cases counted now
  · cases passed.symm.trans refused
  · cases told.symm.trans refused
    have past : limiter.start.getD now ≤ now := by
      cases started : limiter.start with
      | none => exact Nat.le_refl now
      | some start => exact begun start started
    refine ⟨unspent, rfl, limiter.start.getD now, ⟨Nat.lt_of_le_of_lt (Nat.zero_le _) unspent,
      counted, Nat.le_antisymm within full, rfl⟩, rfl, ?_⟩
    simp only [elapsed] at unspent ⊢
    omega

variable {start : Nat}

private theorem Full.attempts (full : limiter.Full start)
    (inside : ∀ now ∈ moments, now < start + limiter.window.wholeMillis) :
    limiter.attempts moments = (List.replicate moments.length false, limiter) := by
  have answered := attempts_inside full.long full.started (Nat.le_of_eq full.full) inside
  have none_granted : grants 0 moments = List.replicate moments.length false := by
    simp [grants, List.eq_replicate_iff]
  have spent : min limiter.threshold (limiter.count + moments.length) = limiter.count :=
    full.full ▸ Nat.min_eq_left (Nat.le_add_right _ _)
  have room : limiter.threshold - limiter.count = 0 := full.full ▸ Nat.sub_self _
  rw [answered, spent, room, none_granted]

private theorem Full.attempt_after (full : limiter.Full start)
    (after : start + limiter.window.wholeMillis ≤ now) : (limiter.attempt now).1 = .ok () := by
  have begins := @attempt_begins limiter now full.counted
    (fun none => by cases none.symm.trans full.started)
    (fun other found => by cases found.symm.trans full.started; exact after)
  rw [begins]

end FixedWindow

namespace World

variable {world : World} {ref : Ref Limiter} {clock : Ref Clock} {limiter : FixedWindow}

private theorem attempt_fixedWindow_fst
    (built : world.limiters.get ref = .fixedWindow limiter clock) (key : String) (now : Nat) :
    ((world.setClock clock now).attempt ref key).1 =
      match (limiter.attempt now).1 with
      | .ok () => .passed
      | .error wait => .wait wait := by
  have found : (world.setClock clock now).limiters.get ref = .fixedWindow limiter clock := built
  obtain ⟨shown, -⟩ := (world.setClock clock now).read_keeps clock
  rw [setClock_shows] at shown
  rcases decided : limiter.attempt now with ⟨wait | passed, left⟩ <;>
    simp [attempt, found, shown, decided]

/-- The hint of a refusal says how long the quota stays used up, to the millisecond. `before` is
the limiter that was asked, and `after` is the world that it left behind. -/
structure ExactHint (ref : Ref Limiter) (clock : Ref Clock) (key : String) (span now left : Nat)
    (before : FixedWindow) (after : World) : Prop where
  /-- Less than the window has passed of it. -/
  unspent : before.elapsed now < span
  /-- What is left of it is told. -/
  told : left = span - before.elapsed now
  positive : 0 < left
  within : left ≤ span
  /-- Whoever comes before that is refused. -/
  refuses : ∀ moments, (∀ moment ∈ moments, moment < now + left) →
    (after.attempts ref clock key moments).1 = List.replicate moments.length false
  /-- Whoever is the first to come after that is let through. -/
  admits : ∀ moments next, (∀ moment ∈ moments, moment < now + left) → now + left ≤ next →
    (((after.attempts ref clock key moments).2.setClock clock next).attempt ref key).1 = .passed

/-- Whatever attempts came before, the hint of a fixed window's refusal is exact. -/
theorem fixedWindow_hint_exact {threshold now : Nat} {window wait : Duration} {earlier : List Nat}
    {after : World}
    (built : world.limiters.get ref = .fixedWindow (FixedWindow.new threshold window).1 clock)
    (rising : (earlier ++ [now]).Pairwise (· ≤ ·)) (key : String)
    (refused : ((world.attempts ref clock key earlier).2.setClock clock now).attempt ref key =
      (.wait wait, after)) :
    ∃ before left,
      (world.attempts ref clock key earlier).2.limiters.get ref = .fixedWindow before clock ∧
        wait = .ofMillis left ∧
        after.ExactHint ref clock key (FixedWindow.new threshold window).1.window.wholeMillis now
          left before := by
  have counted : 0 < (FixedWindow.new threshold window).1.threshold :=
    normalizeCount_pos (by decide)
  have past := (List.pairwise_append.mp rising).2.2
  obtain ⟨-, found⟩ := attempts_fixedWindow built key earlier
  have settled := (FixedWindow.settled_new threshold window now).attempts counted
    fun moment member => past moment member now (List.mem_singleton_self now)
  generalize (FixedWindow.attempts (FixedWindow.new threshold window).1 earlier).2 = before at *
  generalize (world.attempts ref clock key earlier).2 = reached at *
  obtain ⟨-, kept⟩ := attempt_fixedWindow found key now
  have answered := attempt_fixedWindow_fst found key now
  rw [refused] at kept answered
  rcases asked : before.attempt now with ⟨told | passed, rest⟩ <;> rw [asked] at kept answered
  · cases answered
    obtain ⟨unspent, hint, start, full, spans, ends⟩ := settled.refused counted asked
    refine ⟨before, _, found, hint, unspent, rfl, Nat.sub_pos_of_lt unspent, Nat.sub_le _ _, ?_, ?_⟩
    · intro moments inside
      rw [← ends, ← spans] at inside
      rw [(attempts_fixedWindow kept key moments).1, full.attempts inside]
    · intro moments next inside after
      rw [← ends, ← spans] at inside after
      have left := (attempts_fixedWindow kept key moments).2
      rw [full.attempts inside] at left
      rw [attempt_fixedWindow_fst left key next, full.attempt_after after]
  · cases answered

/-- Three requests a second. The fourth, ten milliseconds on, is told to wait for 990 more: one that
comes after 989 of them is refused, and one that comes after all of them is let through. -/
theorem fixedWindow_hint_exact_990 :
    let limiter := (FixedWindow.new 3 (.ofMillis 1000)).1
    let world : World := { limiters := ⟨#[.fixedWindow limiter ⟨0⟩]⟩ }
    let asked := ((world.attempts ⟨0⟩ ⟨0⟩ "" [0, 0, 0]).2.setClock ⟨0⟩ 10).attempt ⟨0⟩ ""
    world.limiters.get ⟨0⟩ = .fixedWindow limiter ⟨0⟩ ∧ [0, 0, 0, 10].Pairwise (· ≤ ·) ∧
      asked.1 = .wait (.ofMillis 990) ∧
      (asked.2.attempts ⟨0⟩ ⟨0⟩ "" [500, 999]).1 = [false, false] ∧
      (((asked.2.attempts ⟨0⟩ ⟨0⟩ "" [500, 999]).2.setClock ⟨0⟩ 1000).attempt ⟨0⟩ "").1 =
        .passed := by
  intro limiter world asked
  have built : world.limiters.get ⟨0⟩ = .fixedWindow limiter ⟨0⟩ := rfl
  have rising : [0, 0, 0, 10].Pairwise (· ≤ ·) := by simp
  have hint : ((limiter.attempts [0, 0, 0]).2.attempt 10).1 = .error (.ofMillis 990) := by
    simp [limiter, FixedWindow.attempts, FixedWindow.attempt, FixedWindow.new, normalizeCount,
      normalizeDuration, Duration.ofMillis, Duration.wholeMillis, Duration.isZero,
      Duration.nanosPerMilli, lastMilli]
  have answered : asked.1 = .wait (.ofMillis 990) := by
    rw [attempt_fixedWindow_fst (attempts_fixedWindow built "" [0, 0, 0]).2 "" 10, hint]
  have refused : asked = (.wait (.ofMillis 990), asked.2) := by rw [← answered]
  obtain ⟨before, left, -, told, exact⟩ := fixedWindow_hint_exact built rising "" refused
  have same : 990 = left := by
    simp only [Duration.ofMillis, Duration.nanosPerMilli, Duration.mk.injEq] at told
    omega
  subst same
  have inside : ∀ moment ∈ [500, 999], moment < 10 + 990 := by simp
  exact ⟨built, rising, answered, exact.refuses _ inside,
    exact.admits _ 1000 inside (Nat.le_refl 1000)⟩

end World

end AdmissionControl
