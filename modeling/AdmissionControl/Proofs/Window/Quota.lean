import AdmissionControl.Proofs.Pipeline.Building
import AdmissionControl.World.Time
/-!
The quota of a fixed window. The limiter knows one start and one count, and its attempts reset both
whenever one of them comes late enough. So where a window begins depends on all attempts before it,
and what holds of every run is said of the windows that the attempts themselves cut out of time.
-/

namespace AdmissionControl

namespace FixedWindow

/-- The windows into which attempts fall. The first attempt starts one, and the first at or past its
end starts the next. -/
def windows (span : Nat) : List Nat → List (List Nat)
  | [] => []
  | start :: rest =>
    (start :: rest.takeWhile (· < start + span)) ::
      windows span (rest.dropWhile (· < start + span))
termination_by moments => moments.length
decreasing_by
  have fewer := (List.dropWhile_sublist (l := rest) (· < start + span)).length_le
  exact Nat.lt_succ_of_le fewer

/-- The answers to the attempts of one window: the first of them are let through. -/
def grants (quota : Nat) (window : List Nat) : List Bool :=
  window.mapIdx fun place _ => place < quota

def attempts (limiter : FixedWindow) : List Nat → List Bool × FixedWindow
  | [] => ([], limiter)
  | now :: rest =>
    let (answer, limiter) := limiter.attempt now
    let (answers, limiter) := limiter.attempts rest
    (answer.isOk :: answers, limiter)

variable {limiter : FixedWindow} {start now quota span : Nat} {moments : List Nat}

theorem attempts_append (limiter : FixedWindow) (earlier later : List Nat) :
    limiter.attempts (earlier ++ later) =
      ((limiter.attempts earlier).1 ++ ((limiter.attempts earlier).2.attempts later).1,
        ((limiter.attempts earlier).2.attempts later).2) := by
  induction earlier generalizing limiter with
  | nil => rfl
  | cons now rest ih => simp only [List.cons_append, attempts, ih]

private theorem attempt_inside (long : 0 < limiter.window.wholeMillis)
    (started : limiter.start = some start) (inside : now < start + limiter.window.wholeMillis) :
    (limiter.attempt now).1.isOk = (limiter.count < limiter.threshold : Bool) ∧
      (limiter.attempt now).2 =
        if limiter.count < limiter.threshold then { limiter with count := limiter.count + 1 }
        else limiter := by
  have early : ¬ limiter.window.wholeMillis ≤ now - start := by omega
  obtain ⟨threshold, window, _, count⟩ := limiter
  simp only at started early
  subst started
  by_cases room : count < threshold
  · simp [attempt, early, room, Except.isOk, Except.toBool]
  · simp [attempt, early, room, Except.isOk, Except.toBool]

theorem attempt_begins (counted : 0 < limiter.threshold)
    (fresh : limiter.start = none → limiter.count = 0)
    (late : ∀ start, limiter.start = some start → start + limiter.window.wholeMillis ≤ now) :
    limiter.attempt now = (.ok (), { limiter with start := some now, count := 1 }) := by
  obtain ⟨threshold, window, start, count⟩ := limiter
  simp only at counted fresh late
  cases start with
  | none =>
    obtain rfl := fresh rfl
    by_cases instant : window.wholeMillis = 0
    · simp [attempt, instant, counted]
    · simp [attempt, instant, counted]
  | some start =>
    have past : window.wholeMillis ≤ now - start := by
      have := late start rfl
      omega
    simp [attempt, past, counted]

theorem grants_cons (room now : Nat) (rest : List Nat) :
    grants room (now :: rest) = (0 < room : Bool) :: grants (room - 1) rest := by
  have next (place : Nat) : place + 1 < room ↔ place < room - 1 := by omega
  simp [grants, next]

theorem attempts_inside (long : 0 < limiter.window.wholeMillis)
    (started : limiter.start = some start) (within : limiter.count ≤ limiter.threshold)
    (inside : ∀ now ∈ moments, now < start + limiter.window.wholeMillis) :
    limiter.attempts moments =
      (grants (limiter.threshold - limiter.count) moments,
        { limiter with count := min limiter.threshold (limiter.count + moments.length) }) := by
  induction moments generalizing limiter with
  | nil => simp [attempts, grants, Nat.min_eq_right within]
  | cons now rest ih =>
    rw [List.forall_mem_cons] at inside
    obtain ⟨answer, left⟩ := attempt_inside long started inside.1
    simp only [attempts, grants_cons, answer, left, List.length_cons]
    by_cases room : limiter.count < limiter.threshold
    · have last : limiter.threshold - (limiter.count + 1) = limiter.threshold - limiter.count - 1 :=
        Nat.sub_add_eq _ _ _
      have free : 0 < limiter.threshold - limiter.count := Nat.sub_pos_of_lt room
      rw [if_pos room, @ih { limiter with count := limiter.count + 1 } long started room inside.2,
        last]
      simp [Nat.add_right_comm, Nat.add_assoc, room, free]
    · have full : limiter.count = limiter.threshold := Nat.le_antisymm within (Nat.not_lt.mp room)
      rw [if_neg room, ih long started within inside.2]
      simp [full]

/-- A window's attempts are answered as its quota says, whatever came before the window. -/
theorem attempts_window (counted : 0 < limiter.threshold) (long : 0 < limiter.window.wholeMillis)
    (fresh : limiter.start = none → limiter.count = 0)
    (late : ∀ earlier, limiter.start = some earlier → earlier + limiter.window.wholeMillis ≤ start)
    (inside : ∀ now ∈ moments, now < start + limiter.window.wholeMillis) :
    limiter.attempts (start :: moments) =
      (grants limiter.threshold (start :: moments),
        { limiter with
          start := some start
          count := min limiter.threshold (start :: moments).length }) := by
  let begun : FixedWindow := { limiter with start := some start, count := 1 }
  have others : begun.attempts moments = _ := attempts_inside long rfl counted inside
  rw [attempts, attempt_begins counted fresh late, grants_cons]
  simp only [begun] at others
  simp [others, counted, Except.isOk, Except.toBool, Nat.add_comm]

/-- The first window has what comes before its end, and the next starts with what does not. -/
theorem windows_cons (span start : Nat) (rest : List Nat) :
    let inside := rest.takeWhile (· < start + span)
    let later := rest.dropWhile (· < start + span)
    windows span (start :: rest) = (start :: inside) :: windows span later ∧
      rest = inside ++ later ∧ (∀ now ∈ inside, now < start + span) ∧
      ∀ now ∈ later.head?, start + span ≤ now := by
  refine ⟨by rw [windows], List.takeWhile_append_dropWhile.symm, ?_, ?_⟩
  · intro now member
    simpa using List.all_eq_true.mp List.all_takeWhile now member
  · intro now head
    have past := List.head?_dropWhile_not (· < start + span) rest
    rw [head] at past
    simpa using past

private theorem windows_flatten (span : Nat) (moments : List Nat) :
    (windows span moments).flatten = moments := by
  induction moments using windows.induct span with
  | case1 => simp [windows]
  | case2 start rest ih =>
    rw [windows, List.flatten_cons, ih, List.cons_append, List.takeWhile_append_dropWhile]

/-- Attempts are answered as the quotas of their windows say, and what the limiter counts is what it
has let through in the last of them. -/
theorem attempts_windows (counted : 0 < limiter.threshold) (long : 0 < limiter.window.wholeMillis)
    (fresh : limiter.start = none → limiter.count = 0)
    (late : ∀ start, limiter.start = some start →
      ∀ now ∈ moments.head?, start + limiter.window.wholeMillis ≤ now) :
    (limiter.attempts moments).1 =
        (windows limiter.window.wholeMillis moments).flatMap (grants limiter.threshold) ∧
      (limiter.attempts moments).2.count =
        (windows limiter.window.wholeMillis moments).getLast?.elim limiter.count
          (min limiter.threshold ·.length) := by
  -- Each window is as the first one was: the attempt that starts it sees nothing of those before.
  generalize spanned : limiter.window.wholeMillis = span at *
  induction moments using windows.induct span generalizing limiter with
  | case1 => simp [attempts, windows]
  | case2 start rest ih =>
    subst spanned
    obtain ⟨cut, whole, inside, past⟩ := windows_cons limiter.window.wholeMillis start rest
    generalize rest.takeWhile (· < start + limiter.window.wholeMillis) = window at *
    generalize rest.dropWhile (· < start + limiter.window.wholeMillis) = later at *
    have answered := attempts_window counted long fresh
      (fun earlier started => late earlier started start rfl) inside
    obtain ⟨answers, left⟩ := @ih (limiter.attempts (start :: window)).2
      (by rwa [answered]) (by rw [answered]; nofun) (by rw [answered]) (by
        rw [answered]
        rintro earlier started now head
        cases started
        exact past now head)
    rw [cut, whole, ← List.cons_append, attempts_append, List.flatMap_cons, List.getLast?_cons]
    rw [answered] at answers left ⊢
    refine ⟨congrArg _ answers, left.trans ?_⟩
    cases (windows limiter.window.wholeMillis later).getLast? <;> rfl

def passages (moments : List Nat) (answers : List Bool) : List Nat :=
  (moments.zip answers).filterMap fun (now, passed) => if passed then some now else none

private theorem length_grants (quota : Nat) (window : List Nat) :
    (grants quota window).length = window.length := by
  simp [grants]

private theorem passages_grants (room : Nat) (window : List Nat) :
    passages window (grants room window) = window.take room := by
  induction window generalizing room with
  | nil => simp [passages]
  | cons now rest ih =>
    rw [grants_cons]
    cases room with
    | zero => simpa [passages] using ih 0
    | succ room => simpa [passages] using ih room

private theorem passages_windows (quota : Nat) (windows : List (List Nat)) :
    passages windows.flatten (windows.flatMap (grants quota)) = windows.flatMap (·.take quota) := by
  induction windows with
  | nil => rfl
  | cons window rest ih =>
    have zipped := @List.zip_append _ _ _ rest.flatten _ (rest.flatMap (grants quota))
      (length_grants quota window).symm
    rw [List.flatten_cons, List.flatMap_cons, List.flatMap_cons, ← ih, ← passages_grants]
    simp only [passages, zipped, List.filterMap_append]

private theorem mem_of_mem_take (quota : Nat)
    (member : now ∈ (windows span moments).flatMap (·.take quota)) : now ∈ moments := by
  obtain ⟨window, cut, taken⟩ := List.mem_flatMap.mp member
  rw [← windows_flatten span moments]
  exact List.mem_flatten.mpr ⟨window, cut, List.mem_of_mem_take taken⟩

private theorem le_of_le_head {bound : Nat} (rising : moments.Pairwise (· ≤ ·))
    (first : ∀ now ∈ moments.head?, bound ≤ now) : ∀ now ∈ moments, bound ≤ now := by
  cases moments with
  | nil => nofun
  | cons start rest =>
    have begins := first start rfl
    intro now member
    rcases List.mem_cons.mp member with rfl | later
    · exact begins
    · exact Nat.le_trans begins ((List.pairwise_cons.mp rising).1 now later)

private theorem countP_take_le (quota : Nat) (window : List Nat) (within : Nat → Bool) :
    (window.take quota).countP within ≤ quota :=
  Nat.le_trans List.countP_le_length (List.length_take_le quota window)

/-- An interval that is as long as the window and begins before all attempts meets one window. -/
theorem countP_first_le (span quota first : Nat) (rising : moments.Pairwise (· ≤ ·))
    (later : ∀ now ∈ moments, first ≤ now) :
    ((windows span moments).flatMap (·.take quota)).countP
      (fun now => first ≤ now ∧ now < first + span) ≤ quota := by
  cases moments with
  | nil => simp [windows]
  | cons start rest =>
    obtain ⟨cut, whole, inside, past⟩ := windows_cons span start rest
    have begins := later start List.mem_cons_self
    have ordered := (List.pairwise_append.mp (whole ▸ (List.pairwise_cons.mp rising).2)).2.1
    have beyond := le_of_le_head ordered past
    have none : ((windows span (rest.dropWhile (· < start + span))).flatMap (·.take quota)).countP
        (fun now => first ≤ now ∧ now < first + span) = 0 := by
      apply List.countP_eq_zero.mpr
      intro now member
      have reached := beyond now (mem_of_mem_take quota member)
      simp only [decide_eq_true_eq]
      omega
    rw [cut, List.flatMap_cons, List.countP_append, none, Nat.add_zero]
    exact countP_take_le _ _ _

/-- An interval that is as long as the window meets two windows at most. -/
theorem countP_interval_le (quota first : Nat) (long : 0 < span) (rising : moments.Pairwise (· ≤ ·)) :
    ((windows span moments).flatMap (·.take quota)).countP
      (fun now => first ≤ now ∧ now < first + span) ≤ 2 * quota := by
  induction moments using windows.induct span with
  | case1 => simp [windows]
  | case2 start rest ih =>
    obtain ⟨cut, whole, inside, past⟩ := windows_cons span start rest
    have ordered := (List.pairwise_append.mp (whole ▸ (List.pairwise_cons.mp rising).2)).2.1
    rw [cut, List.flatMap_cons, List.countP_append]
    by_cases meets : ∃ now ∈ start :: rest.takeWhile (· < start + span), first ≤ now
    · obtain ⟨now, member, reached⟩ := meets
      have before : now < start + span := by
        rcases List.mem_cons.mp member with rfl | member
        · exact Nat.lt_add_of_pos_right long
        · exact inside now member
      have others := countP_first_le span quota first ordered
        (fun later member => by
          have := le_of_le_head ordered past later member
          omega)
      have own := countP_take_le quota (start :: rest.takeWhile (· < start + span))
        (fun now => first ≤ now ∧ now < first + span)
      omega
    · have none : ((start :: rest.takeWhile (· < start + span)).take quota).countP
          (fun now => first ≤ now ∧ now < first + span) = 0 := by
        apply List.countP_eq_zero.mpr
        intro now member inside
        exact meets ⟨now, List.mem_of_mem_take member, (of_decide_eq_true inside).1⟩
      rw [none, Nat.zero_add]
      exact ih ordered

theorem new_positive {threshold : Nat} {window : Duration} (counted : 0 < threshold)
    (long : window.isZero = false) :
    (FixedWindow.new threshold window).1 = { threshold, window } := by
  simp only [FixedWindow.new, normalizeCount_positive counted, normalizeDuration_positive long]

/-- Attempts that are let through by a quota for each of their windows. -/
structure KeepsQuota (quota span : Nat) (moments : List Nat) (answers : List Bool) (count : Nat) :
    Prop where
  /-- Every attempt falls into one of the windows. -/
  cut : (windows span moments).flatten = moments
  /-- Of each window the first attempts are let through, and no others. -/
  granted : answers = (windows span moments).flatMap (grants quota)
  /-- Those of the latest window are counted. -/
  counted : count = min quota ((windows span moments).getLast?.getD []).length
  /-- An interval as long as a window has no more than the quotas of two. -/
  bursts : ∀ first, (passages moments answers).countP
    (fun now => first ≤ now ∧ now < first + span) ≤ 2 * quota

private theorem attempts_keepsQuota {threshold : Nat} {window : Duration} (counted : 0 < threshold)
    (long : 0 < window.wholeMillis) (rising : moments.Pairwise (· ≤ ·)) :
    let run := FixedWindow.attempts { threshold, window } moments
    KeepsQuota threshold window.wholeMillis moments run.1 run.2.count := by
  intro run
  obtain ⟨answers, count⟩ := @attempts_windows { threshold, window } moments counted long
    (fun _ => rfl) nofun
  simp only at answers count
  constructor
  case cut => exact windows_flatten _ _
  case granted => exact answers
  case counted =>
    rw [count]
    cases (windows window.wholeMillis moments).getLast? <;> simp
  case bursts =>
    intro first
    have passed := passages_windows threshold (windows window.wholeMillis moments)
    rw [windows_flatten] at passed
    rw [answers, passed]
    exact countP_interval_le threshold first long rising

end FixedWindow

namespace Duration

private theorem wholeMillis_pos {window : Duration} (long : nanosPerMilli ≤ window.nanos) :
    0 < window.wholeMillis := by
  have shown : 0 < lastMilli := Nat.zero_lt_succ _
  exact Nat.lt_min.mpr ⟨Nat.div_pos long nanosPerMilli_pos, shown⟩

theorem isZero_of_pos {window : Duration} (long : 0 < window.nanos) : window.isZero = false :=
  beq_eq_false_iff_ne.mpr (Nat.ne_of_gt long)

end Duration

namespace World

def Attempt.isPassed : Attempt → Bool
  | .passed => true
  | _ => false

/-- Attempts at a limiter one after the other, at the moments to which a clock is set for them:
whether each is let through. -/
def attempts (world : World) (ref : Ref Limiter) (clock : Ref Clock) (key : String) :
    List Nat → List Bool × World
  | [] => ([], world)
  | now :: rest =>
    let (answer, world) := (world.setClock clock now).attempt ref key
    let (answers, world) := world.attempts ref clock key rest
    (answer.isPassed :: answers, world)

variable {world : World} {ref : Ref Limiter} {clock : Ref Clock} {limiter : FixedWindow}

theorem setClock_shows (world : World) (clock : Ref Clock) (now : Nat) :
    ((world.setClock clock now).clocks.get clock).now = now := by
  rw [setClock, Table.get_set_self]

theorem attempt_fixedWindow (built : world.limiters.get ref = .fixedWindow limiter clock)
    (key : String) (now : Nat) :
    let tried := (world.setClock clock now).attempt ref key
    tried.1.isPassed = (limiter.attempt now).1.isOk ∧
      tried.2.limiters.get ref = .fixedWindow (limiter.attempt now).2 clock := by
  have found : (world.setClock clock now).limiters.get ref = .fixedWindow limiter clock := built
  obtain ⟨shown, kept⟩ := (world.setClock clock now).read_keeps clock
  rw [setClock_shows] at shown
  simp only [attempt, found, shown, setLimiter, Table.get_set_self, and_true]
  rcases (limiter.attempt now).1 with wait | passed <;> rfl

theorem attempts_fixedWindow (built : world.limiters.get ref = .fixedWindow limiter clock)
    (key : String) (moments : List Nat) :
    (world.attempts ref clock key moments).1 = (limiter.attempts moments).1 ∧
      (world.attempts ref clock key moments).2.limiters.get ref =
        .fixedWindow (limiter.attempts moments).2 clock := by
  induction moments generalizing world limiter with
  | nil => exact ⟨rfl, built⟩
  | cons now rest ih =>
    obtain ⟨answer, left⟩ := attempt_fixedWindow built key now
    obtain ⟨answers, final⟩ := ih left
    simp only [attempts, FixedWindow.attempts, answer, answers]
    exact ⟨trivial, final⟩

/-- A fixed window keeps its quota in every run of attempts: in each window that they cut out, the
first of them pass. -/
theorem fixedWindow_keepsQuota {threshold : Nat} {window : Duration} {moments : List Nat}
    (built : world.limiters.get ref = .fixedWindow (FixedWindow.new threshold window).1 clock)
    (counted : 1 ≤ threshold) (long : Duration.nanosPerMilli ≤ window.nanos)
    (rising : moments.Pairwise (· ≤ ·)) (key : String) :
    let run := world.attempts ref clock key moments
    ∃ limiter, run.2.limiters.get ref = .fixedWindow limiter clock ∧
      FixedWindow.KeepsQuota threshold window.wholeMillis moments run.1 limiter.count := by
  intro run
  have positive := Duration.isZero_of_pos (Nat.lt_of_lt_of_le Duration.nanosPerMilli_pos long)
  rw [FixedWindow.new_positive counted positive] at built
  obtain ⟨answers, left⟩ := attempts_fixedWindow built key moments
  refine ⟨_, left, ?_⟩
  rw [answers]
  exact FixedWindow.attempts_keepsQuota counted (Duration.wholeMillis_pos long) rising

/-- A burst at the end of one window and another at the beginning of the next: five attempts pass
within two milliseconds. -/
theorem fixedWindow_keepsQuota_bursts :
    let limiter := (FixedWindow.new 3 (.ofMillis 1000)).1
    let world : World := { limiters := ⟨#[.fixedWindow limiter ⟨0⟩]⟩ }
    let moments := [0, 999, 999, 999, 1000, 1000, 1000]
    (world.limiters.get ⟨0⟩ = .fixedWindow limiter ⟨0⟩ ∧ 1 ≤ 3 ∧
        Duration.nanosPerMilli ≤ (Duration.ofMillis 1000).nanos ∧ moments.Pairwise (· ≤ ·)) ∧
      FixedWindow.windows 1000 moments = [[0, 999, 999, 999], [1000, 1000, 1000]] ∧
      (world.attempts ⟨0⟩ ⟨0⟩ "" moments).1 = [true, true, true, false, true, true, true] ∧
      ∃ left, (world.attempts ⟨0⟩ ⟨0⟩ "" moments).2.limiters.get ⟨0⟩ = .fixedWindow left ⟨0⟩ ∧
        left.count = 3 := by
  intro limiter world moments
  have built : world.limiters.get ⟨0⟩ = .fixedWindow limiter ⟨0⟩ := rfl
  have long : Duration.nanosPerMilli ≤ (Duration.ofMillis 1000).nanos := by
    simp [Duration.ofMillis, Duration.nanosPerMilli]
  have rising : moments.Pairwise (· ≤ ·) := by simp [moments]
  have cut : FixedWindow.windows 1000 moments = [[0, 999, 999, 999], [1000, 1000, 1000]] := by
    simp [moments, FixedWindow.windows]
  have span : (Duration.ofMillis 1000).wholeMillis = 1000 :=
    Duration.wholeMillis_ofMillis (by simp [lastMilli])
  obtain ⟨left, stands, kept⟩ := fixedWindow_keepsQuota built (by simp) long rising ""
  have granted := kept.granted
  have counted := kept.counted
  rw [span, cut] at granted counted
  refine ⟨⟨built, by simp, long, rising⟩, cut, ?_, left, stands, ?_⟩
  · simpa [FixedWindow.grants] using granted
  · simpa using counted

end World

end AdmissionControl
