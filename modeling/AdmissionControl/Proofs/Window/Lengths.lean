import AdmissionControl.Proofs.Bucket.Throughput
import AdmissionControl.Proofs.Pipeline.Overrun
import AdmissionControl.Proofs.Pipeline.Still
import AdmissionControl.Proofs.Window.Quota
/-!
The lengths at which a window limits anything. A window is a length of time to the nanosecond, and
clocks count whole milliseconds, so a limiter goes by the whole milliseconds of its window. It lets
more through within the window that it was given than it should where these are less than the window.
-/

namespace AdmissionControl

/-- Moments in order, all of them before a limit, and none as much as a window after the first. -/
structure Duration.Spans (window : Duration) (limit : Nat) (moments : List Nat) : Prop where
  rising : moments.Pairwise (· ≤ ·)
  shown : ∀ now ∈ moments, now < limit
  within : ∀ first ∈ moments.head?, ∀ now ∈ moments, (now - first) * nanosPerMilli < window.nanos

/-- A limiter is a sliding window over a store in memory. It goes by the clock, which is its own or
the store's, and nobody waits for anything. -/
structure World.Windowed (world : World) (ref : Ref Limiter) (clock : Ref Clock)
    (limiter : SlidingWindow) (held : MemoryStore) : Prop where
  built : ∃ store stamps own, world.limiters.get ref = .slidingWindow limiter store stamps ∧
    world.stores.get store = .memory held own ∧ stamps.getD own = clock
  calm : world.alarms = []

/-- A new fixed window lets no more through within its length than its threshold. -/
def FixedWindow.Limits (threshold : Nat) (window : Duration) (limit : Nat) : Prop :=
  ∀ (world : World) (ref : Ref Limiter) (clock : Ref Clock) (key : String) (moments : List Nat),
    world.limiters.get ref = .fixedWindow (FixedWindow.new threshold window).1 clock →
    window.Spans limit moments →
    (world.attempts ref clock key moments).1.count true ≤ threshold

/-- A new sliding window over a new store lets no more of one key through within its length than its
threshold. -/
def SlidingWindow.Limits (threshold : Nat) (window : Duration) (limit : Nat) : Prop :=
  ∀ (world : World) (ref : Ref Limiter) (clock : Ref Clock) (policy : FailurePolicy)
      (keyPrefix : String) (timeout : Option Duration) (key : String) (moments : List Nat),
    world.Windowed ref clock { (SlidingWindow.new threshold window).1 with policy, keyPrefix, timeout } {} →
    window.Spans limit moments →
    (world.attempts ref clock key moments).1.count true ≤ threshold

namespace Duration

variable {window : Duration} {moments : List Nat} {limit first : Nat}

private theorem Spans.inside (spans : window.Spans limit (first :: moments))
    (whole : window.nanos = window.wholeMillis * nanosPerMilli) :
    ∀ now ∈ first :: moments, now < first + window.wholeMillis := by
  intro now member
  have within := spans.within first rfl now member
  rw [whole] at within
  have := Nat.lt_of_mul_lt_mul_right within
  omega

private theorem wholeMillis_mul_le (window : Duration) :
    window.wholeMillis * nanosPerMilli ≤ window.nanos :=
  Nat.le_trans (Nat.mul_le_mul_right _ (Nat.min_le_left _ _)) (Nat.div_mul_le_self _ _)

private theorem spans_burst {burst early late : Nat} (ordered : early ≤ late) (shown : late < limit)
    (within : (late - early) * nanosPerMilli < window.nanos) :
    window.Spans limit (List.replicate burst early ++ [late]) := by
  have either : ∀ now ∈ List.replicate burst early ++ [late], now = early ∨ now = late := by
    intro now member
    rcases List.mem_append.mp member with before | last
    · exact .inl (List.eq_of_mem_replicate before)
    · exact .inr (List.mem_singleton.mp last)
  constructor
  case rising =>
    apply List.pairwise_append.mpr
    refine ⟨List.pairwise_replicate.mpr (.inr (Nat.le_refl _)), List.pairwise_singleton _ _, ?_⟩
    intro one first two second
    rw [List.eq_of_mem_replicate first, List.mem_singleton.mp second]
    exact ordered
  case shown =>
    intro now member
    rcases either now member with rfl | rfl
    · exact Nat.lt_of_le_of_lt ordered shown
    · exact shown
  case within =>
    intro first head now member
    have begins := either first (List.mem_of_mem_head? head)
    refine Nat.lt_of_le_of_lt (Nat.mul_le_mul_right _ ?_) within
    rcases either now member with rfl | rfl <;> rcases begins with rfl | rfl <;> omega

end Duration

namespace FixedWindow

variable {limiter : FixedWindow} {threshold limit now : Nat} {window : Duration}

private theorem count_grants_le (quota : Nat) (window : List Nat) :
    (grants quota window).count true ≤ quota := by
  induction window generalizing quota with
  | nil => exact Nat.zero_le _
  | cons now rest ih =>
    rw [grants_cons]
    cases quota with
    | zero => simpa using ih 0
    | succ quota => simpa using ih quota

/-- What is a whole number of milliseconds is limited: all attempts fall into one window. -/
theorem limits_of_whole (counted : 0 < threshold) (positive : 0 < window.nanos)
    (whole : window.nanos = window.wholeMillis * Duration.nanosPerMilli) :
    Limits threshold window limit := by
  intro world ref clock key moments built spans
  rw [new_positive counted (Duration.isZero_of_pos positive)] at built
  rw [(World.attempts_fixedWindow built key moments).1]
  cases moments with
  | nil => exact Nat.zero_le _
  | cons first rest =>
    have long : 0 < window.wholeMillis := Nat.pos_of_mul_pos_right (whole ▸ positive)
    have inside := List.forall_mem_cons.mp (spans.inside whole)
    have answered : attempts { threshold, window } (first :: rest) = _ :=
      attempts_window counted long (fun _ => rfl) nofun inside.2
    rw [answered]
    exact count_grants_le _ _

private theorem attempt_at_start (below : limiter.count < limiter.threshold)
    (here : ∀ start, limiter.start = some start → start = now) :
    ∃ count ≤ limiter.count + 1,
      limiter.attempt now = (.ok (), { limiter with start := some now, count }) := by
  have begun : limiter.start.getD now = now := by
    cases started : limiter.start with
    | none => rfl
    | some start => exact here start started
  by_cases instant : limiter.window.wholeMillis = 0
  · have positive : 0 < limiter.threshold := Nat.lt_of_le_of_lt (Nat.zero_le _) below
    exact ⟨1, Nat.le_add_left _ _, by simp [attempt, begun, instant, positive]⟩
  · exact ⟨limiter.count + 1, Nat.le_refl _, by simp [attempt, begun, instant, below]⟩

private theorem attempts_burst {burst : Nat} (room : limiter.count + burst < limiter.threshold)
    (here : ∀ start, limiter.start = some start → start = now) :
    ∃ count, limiter.attempts (List.replicate (burst + 1) now) =
      (List.replicate (burst + 1) true, { limiter with start := some now, count }) := by
  induction burst generalizing limiter with
  | zero =>
    obtain ⟨count, -, passed⟩ := attempt_at_start room here
    exact ⟨count, by simp only [List.replicate, attempts, passed]; rfl⟩
  | succ burst ih =>
    obtain ⟨count, few, passed⟩ := attempt_at_start (by omega) here
    have more : count + burst < limiter.threshold := by omega
    obtain ⟨later, others⟩ := @ih { limiter with start := some now, count } more
      (fun _ same => (Option.some.inj same).symm)
    refine ⟨later, ?_⟩
    rw [List.replicate_succ, attempts, passed]
    simp only [others]
    rfl

/-- At the end of the whole milliseconds a new window begins, while the one that was given lasts. -/
theorem not_limits (counted : 0 < threshold)
    (longer : window.wholeMillis * Duration.nanosPerMilli < window.nanos) :
    ¬ Limits threshold window (lastMilli + 1) := by
  intro limits
  have positive := Nat.lt_of_le_of_lt (Nat.zero_le _) longer
  have new := new_positive counted (Duration.isZero_of_pos positive)
  have spans : window.Spans (lastMilli + 1) (List.replicate threshold 0 ++ [window.wholeMillis]) :=
    Duration.spans_burst (Nat.zero_le _) (Nat.lt_succ_of_le (Nat.min_le_right _ _)) longer
  let world : World := { limiters := ⟨#[.fixedWindow { threshold, window } ⟨0⟩]⟩ }
  have built : world.limiters.get ⟨0⟩ = .fixedWindow { threshold, window } ⟨0⟩ := rfl
  have few := limits world ⟨0⟩ ⟨0⟩ "" _ (by rw [new]; exact built) spans
  rw [(World.attempts_fixedWindow built "" _).1, attempts_append] at few
  obtain ⟨burst, rfl⟩ := Nat.exists_eq_add_one_of_ne_zero (Nat.ne_of_gt counted)
  obtain ⟨count, passed⟩ := @attempts_burst { threshold := burst + 1, window } 0 burst
    (by simp) nofun
  have late : attempt { threshold := burst + 1, window, start := some 0, count }
      window.wholeMillis = _ :=
    attempt_begins counted nofun (fun _ same => by cases same; exact Nat.le_of_eq (Nat.zero_add _))
  simp only [passed, attempts, late, List.count_append, List.count_replicate_self] at few
  simp [Except.isOk, Except.toBool] at few

private theorem limits_iff (counted : 0 < threshold) (positive : 0 < window.nanos) :
    Limits threshold window (lastMilli + 1) ↔
      window.nanos = window.wholeMillis * Duration.nanosPerMilli := by
  constructor
  · intro limits
    by_contra fraction
    have whole := window.wholeMillis_mul_le
    exact not_limits counted (by omega) limits
  · exact limits_of_whole counted positive

end FixedWindow

namespace MemoryStore

def attempts (store : MemoryStore) (request : WindowRequest) : List Nat → List Bool × MemoryStore
  | [] => ([], store)
  | now :: rest =>
    let (recorded, store, _) := store.recordIfBelow request now
    let (answers, store) := store.attempts request rest
    (recorded :: answers, store)

variable {store : MemoryStore} {request : WindowRequest} {moments : List Nat} {now burst : Nat}

private theorem attempts_append (store : MemoryStore) (request : WindowRequest)
    (earlier later : List Nat) :
    store.attempts request (earlier ++ later) =
      ((store.attempts request earlier).1 ++
          ((store.attempts request earlier).2.attempts request later).1,
        ((store.attempts request earlier).2.attempts request later).2) := by
  induction earlier generalizing store with
  | nil => rfl
  | cons now rest ih => simp only [List.cons_append, attempts, ih]

private theorem attempts_inside {ledger : Ledger} {first latest : Nat}
    (tracks : Tracks (fun _ => request.window) ledger latest store)
    (rising : (latest :: moments).Pairwise (· ≤ ·)) (shown : ∀ now ∈ moments, now < lastMilli)
    (began : ∀ event ∈ ledger request.key, first ≤ event)
    (inside : ∀ now ∈ moments, first ≤ now ∧ now < first + request.window)
    (few : (ledger request.key).length ≤ request.threshold) :
    (store.attempts request moments).1.count true + (ledger request.key).length ≤
      request.threshold := by
  induction moments generalizing store ledger latest with
  | nil => simpa [attempts] using few
  | cons now rest ih =>
    obtain ⟨before, ordered⟩ := List.pairwise_cons.mp rising
    rw [List.forall_mem_cons] at shown inside
    have later := before now List.mem_cons_self
    -- The window reaches back to all that was ever recorded.
    have whole : store.kept request now = ledger request.key := by
      rw [← tracks.live_eq_kept later shown.1 rfl]
      apply List.filter_eq_self.mpr
      intro event member
      have := began event member
      simp only [decide_eq_true_eq]
      omega
    have tracked := tracks.record later shown.1 (Nat.le_refl _)
    have recorded := store.recordIfBelow_fst request now
    rw [whole] at tracked recorded
    simp only [attempts, recorded, List.count_cons]
    by_cases below : (ledger request.key).length < request.threshold
    · rw [if_pos below] at tracked
      have others := ih tracked ordered shown.2
        (by
          intro event member
          rw [Ledger.enter_self] at member
          rcases List.mem_append.mp member with earlier | own
          · exact began event earlier
          · exact List.mem_singleton.mp own ▸ inside.1.1)
        inside.2 (by rw [Ledger.enter_self, List.length_append]; exact below)
      rw [Ledger.enter_self, List.length_append, List.length_singleton] at others
      simpa [below, Nat.add_right_comm, Nat.add_assoc] using others
    · rw [if_neg below, Ledger.enter_nil] at tracked
      simpa [below] using ih tracked ordered shown.2 began inside.2 few

private theorem record_alone (distinct : (store.keys.map KeyEvents.key).Nodup)
    (counted : 0 < request.threshold)
    (gone : ∀ event ∈ store.events request.key, KeyEvents.left request.window now event = true) :
    (store.recordIfBelow request now).1 = true := by
  have none : (store.kept request now).length ≤ [].length :=
    kept_length_le distinct (by simp) gone
  rw [recordIfBelow_fst, decide_eq_true_iff]
  exact Nat.lt_of_le_of_lt none counted

private theorem attempts_burst (distinct : (store.keys.map KeyEvents.key).Nodup)
    (room : (store.events request.key).length + burst ≤ request.threshold)
    (here : ∀ event ∈ store.events request.key, event = now) :
    ∃ after, store.attempts request (List.replicate burst now) = (List.replicate burst true, after) ∧
      (after.keys.map KeyEvents.key).Nodup ∧ ∀ event ∈ after.events request.key, event = now := by
  induction burst generalizing store with
  | zero => exact ⟨store, rfl, distinct, here⟩
  | succ burst ih =>
    have fewer := (@kept_sublist store request now distinct).length_le
    have recorded : (store.recordIfBelow request now).1 = true := by
      rw [recordIfBelow_fst, decide_eq_true_iff]
      omega
    have grown := events_record distinct request now request.key
    obtain ⟨after, others, kept, still⟩ := ih (distinct_record distinct request now)
      (by
        have := grown.length_le
        rw [List.length_append, List.length_singleton] at this
        omega)
      (by
        intro event member
        rcases List.mem_append.mp (grown.subset member) with earlier | own
        · exact here event earlier
        · exact List.mem_singleton.mp own)
    refine ⟨after, ?_, kept, still⟩
    simp only [List.replicate_succ, attempts, others, recorded]

/-- At the last moment that a clock shows every event has left its window. -/
theorem attempts_last (distinct : (store.keys.map KeyEvents.key).Nodup)
    (counted : 0 < request.threshold) (burst : Nat) :
    (store.attempts request (List.replicate burst lastMilli)).1 = List.replicate burst true := by
  induction burst generalizing store with
  | zero => rfl
  | succ burst ih =>
    have recorded : (store.recordIfBelow request lastMilli).1 = true :=
      record_alone distinct counted fun event _ => decide_eq_true (Nat.min_le_right _ _)
    simp only [List.replicate_succ, attempts, recorded,
      ih (distinct_record distinct request lastMilli)]

end MemoryStore

namespace Consultation

private theorem start_settled (answer : StoreAnswer) (now : Nat) (timeout : Option Duration) :
    (start answer 0 now timeout).wake = now ∧ (start answer 0 now timeout).settled = answer := by
  have wake : (start answer 0 now timeout).wake = now := by
    cases timeout with
    | none => rfl
    | some limit =>
      have later : now ≤ ceilMilli (now * Duration.nanosPerMilli + limit.nanos) := by
        simp only [ceilMilli, Duration.nanosPerMilli]
        omega
      exact Nat.min_eq_left later
  refine ⟨wake, ?_⟩
  rw [settled, wake]
  simp [outcome?, start]

end Consultation

namespace World

variable {world : World} {ref : Ref Limiter} {clock : Ref Clock} {limiter : SlidingWindow}
  {held : MemoryStore}

private theorem settle_calm (calm : world.alarms = []) : world.settle = world := by
  obtain ⟨⟩ := world
  simp only at calm
  simp [settle, calm]

theorem reach_calm (calm : world.alarms = []) (target : Nat) :
    world.reach target = { world with now := max world.now target } := by
  rw [reach, settle_calm calm]
  cases target - world.now <;> simp [reachWithin, nextStop?, calm]

private theorem sleepTo_now (calm : world.alarms = []) : world.sleepTo world.now = world := by
  have there : world.reach world.now = world := by rw [reach_calm calm, Nat.max_self]
  rw [sleepTo, there, settle_calm calm]

theorem beginConsultation_memory {store : Ref Store} {stamps : Option (Ref Clock)} {own : Ref Clock}
    {now : Nat} (stored : world.stores.get store = .memory held own)
    (shows : (world.clocks.get (stamps.getD own)).now = now) (limiter : SlidingWindow)
    (key : String) :
    let recorded := held.recordIfBelow (limiter.request key none) now
    ∃ after, world.beginConsultation limiter store stamps key =
        (.start (.ok recorded.1) 0 after.now limiter.timeout, after) ∧
      after.stores.get store = .memory recorded.2.1 own ∧ after.limiters = world.limiters := by
  cases stamps with
  | none =>
    obtain ⟨after, consulted, stored, limiters, -⟩ :=
      World.consult_memory stored (limiter.request key none)
    have unstamped : (limiter.request key none).now = none := rfl
    rw [Option.getD_none] at shows
    rw [unstamped, Option.getD_none, shows] at consulted stored
    exact ⟨after, by simp only [beginConsultation, consulted], stored, limiters⟩
  | some stamp =>
    obtain ⟨shown, kept⟩ := world.read_keeps stamp
    rw [Option.getD_some] at shows
    rw [shows] at shown
    rw [← kept.stores] at stored
    obtain ⟨after, consulted, stored, limiters, -⟩ :=
      World.consult_memory stored (limiter.request key (some now))
    refine ⟨after, ?_, stored, limiters.trans kept.limiters⟩
    simp only [beginConsultation, shown, consulted]
    rfl

/-- A sliding window over a store in memory is answered by what the store records. -/
theorem attempt_windowed (windowed : world.Windowed ref clock limiter held) (key : String)
    (now : Nat) :
    let tried := (world.setClock clock now).attempt ref key
    let recorded := held.recordIfBelow (limiter.request key none) now
    tried.1.isPassed = recorded.1 ∧ tried.2.Windowed ref clock limiter recorded.2.1 := by
  intro tried recorded
  obtain ⟨⟨store, stamps, own, placed, stored, reads⟩, calm⟩ := windowed
  have placed' : (world.setClock clock now).limiters.get ref = .slidingWindow limiter store stamps :=
    placed
  have stored' : (world.setClock clock now).stores.get store = .memory held own := stored
  have shows : ((world.setClock clock now).clocks.get (stamps.getD own)).now = now := by
    rw [reads, setClock_shows]
  obtain ⟨after, begun, stored, limiters⟩ := beginConsultation_memory stored' shows limiter key
  have still := Still.beginConsultation (world.setClock clock now) limiter store stamps key
  rw [begun] at still
  obtain ⟨wake, settled⟩ := Consultation.start_settled (.ok recorded.1) after.now limiter.timeout
  have quiet : after.alarms = [] := still.alarms.trans calm
  have checked : (world.setClock clock now).check limiter store stamps key =
      (.ok recorded.1, after) := by
    simp only [check, begun, wake, settled, sleepTo_now quiet, recorded]
  simp only [tried, attempt, placed', checked]
  refine ⟨?_, ⟨store, stamps, own, by rw [limiters]; exact placed, stored, reads⟩, quiet⟩
  cases recorded.1 <;> rfl

private theorem attempts_windowed (windowed : world.Windowed ref clock limiter held) (key : String)
    (moments : List Nat) :
    (world.attempts ref clock key moments).1 =
      (held.attempts (limiter.request key none) moments).1 := by
  induction moments generalizing world held with
  | nil => rfl
  | cons now rest ih =>
    obtain ⟨answer, left⟩ := attempt_windowed windowed key now
    simp only [attempts, MemoryStore.attempts, answer, ih left]

end World

namespace SlidingWindow

variable {threshold : Nat} {window : Duration}

/-- Before the last moment a window that is longer than the clock can measure is as good as one that
is not. -/
theorem spans_inside {first : Nat} {moments : List Nat}
    (spans : window.Spans lastMilli (first :: moments))
    (whole : window.nanos % Duration.nanosPerMilli = 0 ∨
      lastMilli * Duration.nanosPerMilli ≤ window.nanos) :
    ∀ now ∈ first :: moments, now < first + window.wholeMillis := by
  have exact : window.nanos / Duration.nanosPerMilli * Duration.nanosPerMilli +
      window.nanos % Duration.nanosPerMilli = window.nanos := Nat.div_add_mod' _ _
  by_cases short : window.nanos / Duration.nanosPerMilli < lastMilli
  · have span : window.wholeMillis = window.nanos / Duration.nanosPerMilli :=
      Nat.min_eq_left (Nat.le_of_lt short)
    apply spans.inside
    rcases whole with whole | long
    · rw [span]
      omega
    · have := Nat.div_lt_iff_lt_mul Duration.nanosPerMilli_pos |>.mp short
      omega
  · have span : window.wholeMillis = lastMilli := Nat.min_eq_right (Nat.not_lt.mp short)
    intro now member
    rw [span]
    exact Nat.lt_add_left _ (spans.shown now member)

private theorem limits_of_whole (counted : 0 < threshold) (positive : 0 < window.nanos)
    (whole : window.nanos % Duration.nanosPerMilli = 0 ∨
      lastMilli * Duration.nanosPerMilli ≤ window.nanos) :
    Limits threshold window lastMilli := by
  intro world ref clock policy keyPrefix timeout key moments windowed spans
  rw [new_positive counted (Duration.isZero_of_pos positive)] at windowed
  rw [World.attempts_windowed windowed key moments]
  cases moments with
  | nil => exact Nat.zero_le _
  | cons first rest =>
    let request := request { threshold, window, policy, keyPrefix, timeout } key none
    have inside := spans_inside spans whole
    have before := (List.pairwise_cons.mp spans.rising).1
    exact MemoryStore.attempts_inside (Tracks.new fun _ => request.window)
      (List.pairwise_cons.mpr ⟨fun _ _ => Nat.zero_le _, spans.rising⟩) spans.shown nofun
      (fun now member => ⟨by
        rcases List.mem_cons.mp member with rfl | later
        · exact Nat.le_refl _
        · exact before now later, inside now member⟩)
      (Nat.zero_le _)

def alone (threshold : Nat) (window : Duration) : World where
  limiters := ⟨#[.slidingWindow (new threshold window).1 ⟨0⟩ none]⟩
  stores := ⟨#[.memory {} ⟨0⟩]⟩

private theorem alone_windowed (threshold : Nat) (window : Duration) :
    (alone threshold window).Windowed ⟨0⟩ ⟨0⟩ (new threshold window).1 {} :=
  ⟨⟨⟨0⟩, none, ⟨0⟩, rfl, rfl, rfl⟩, rfl⟩

private theorem Limits.alone {limit : Nat} {moments : List Nat}
    (limits : Limits threshold window limit)
    (counted : 0 < threshold) (positive : 0 < window.nanos) (spans : window.Spans limit moments) :
    (MemoryStore.attempts {} (request { threshold, window } "" none) moments).1.count true ≤
      threshold := by
  have windowed := alone_windowed threshold window
  have few := limits _ _ _ _ _ _ "" moments windowed spans
  rw [World.attempts_windowed windowed] at few
  rw [new_positive counted (Duration.isZero_of_pos positive)] at few
  exact few

/-- At the end of the whole milliseconds all events have left, while the window that was given lasts. -/
theorem not_limits (counted : 0 < threshold) (fraction : window.nanos % Duration.nanosPerMilli ≠ 0)
    (short : window.nanos < lastMilli * Duration.nanosPerMilli) :
    ¬ Limits threshold window lastMilli := by
  intro limits
  have shown : window.nanos / Duration.nanosPerMilli < lastMilli :=
    (Nat.div_lt_iff_lt_mul Duration.nanosPerMilli_pos).mpr short
  have span : window.wholeMillis = window.nanos / Duration.nanosPerMilli :=
    Nat.min_eq_left (Nat.le_of_lt shown)
  have longer : window.wholeMillis * Duration.nanosPerMilli < window.nanos := by
    have : window.nanos / Duration.nanosPerMilli * Duration.nanosPerMilli +
      window.nanos % Duration.nanosPerMilli = window.nanos := Nat.div_add_mod' _ _
    rw [span]
    omega
  have spans : window.Spans lastMilli (List.replicate threshold 0 ++ [window.wholeMillis]) :=
    Duration.spans_burst (Nat.zero_le _) (by rw [span]; exact shown) longer
  have few := limits.alone counted (Nat.lt_of_le_of_lt (Nat.zero_le _) longer) spans
  obtain ⟨after, passed, distinct, here⟩ := @MemoryStore.attempts_burst {}
    (request { threshold, window } "" none) 0 threshold List.nodup_nil (Nat.le_of_eq (Nat.zero_add _))
    nofun
  have late : (after.recordIfBelow (request { threshold, window } "" none) window.wholeMillis).1 =
      true := by
    apply MemoryStore.record_alone distinct counted
    intro event member
    rw [here event member, KeyEvents.left_iff (by rw [span]; exact shown)]
    exact Nat.le_of_eq (Nat.zero_add _)
  simp only [MemoryStore.attempts_append, passed, MemoryStore.attempts, late, List.count_append,
    List.count_replicate_self] at few
  simp at few

private theorem not_limits_last (counted : 0 < threshold) (positive : 0 < window.nanos) :
    ¬ Limits threshold window (lastMilli + 1) := by
  intro limits
  have spans : window.Spans (lastMilli + 1) (List.replicate threshold lastMilli ++ [lastMilli]) :=
    Duration.spans_burst (Nat.le_refl _) (Nat.lt_succ_self _) (by simpa using positive)
  rw [← List.replicate_succ'] at spans
  have few := limits.alone counted positive spans
  have passed := @MemoryStore.attempts_last {} (request { threshold, window } "" none)
    List.nodup_nil counted (threshold + 1)
  rw [passed, List.count_replicate_self] at few
  exact Nat.not_succ_le_self _ few

private theorem limits_iff (counted : 0 < threshold) (positive : 0 < window.nanos) :
    Limits threshold window lastMilli ↔ window.nanos % Duration.nanosPerMilli = 0 ∨
      lastMilli * Duration.nanosPerMilli ≤ window.nanos := by
  constructor
  · intro limits
    by_contra fraction
    rw [not_or] at fraction
    exact not_limits counted fraction.1 (Nat.lt_of_not_le fraction.2) limits
  · exact limits_of_whole counted positive

end SlidingWindow

/-- A window limits what its limiter lets through exactly where the whole milliseconds of the window
are the window. Sliding windows do so before the last moment that a clock can show, and so do those
that are longer than the clock can measure. At the last moment they limit nothing. -/
theorem windows_limit_iff {threshold : Nat} {window : Duration} (counted : 1 ≤ threshold)
    (positive : 0 < window.nanos) :
    (FixedWindow.Limits threshold window (lastMilli + 1) ↔
        window.nanos = window.wholeMillis * Duration.nanosPerMilli) ∧
      (SlidingWindow.Limits threshold window lastMilli ↔
        window.nanos % Duration.nanosPerMilli = 0 ∨
          lastMilli * Duration.nanosPerMilli ≤ window.nanos) ∧
      ¬ SlidingWindow.Limits threshold window (lastMilli + 1) :=
  ⟨FixedWindow.limits_iff counted positive, SlidingWindow.limits_iff counted positive,
    SlidingWindow.not_limits_last counted positive⟩

/-- Two milliseconds are a limit, and one and a half are none. -/
theorem windows_limit_two_millis :
    (1 ≤ 1 ∧ 0 < (Duration.mk 2000000).nanos ∧ 0 < (Duration.mk 1500000).nanos) ∧
      (FixedWindow.Limits 1 ⟨2000000⟩ (lastMilli + 1) ∧ SlidingWindow.Limits 1 ⟨2000000⟩ lastMilli) ∧
      ¬ FixedWindow.Limits 1 ⟨1500000⟩ (lastMilli + 1) ∧
      ¬ SlidingWindow.Limits 1 ⟨1500000⟩ lastMilli := by
  have two : 0 < (Duration.mk 2000000).nanos := by simp
  have half : 0 < (Duration.mk 1500000).nanos := by simp
  obtain ⟨fixed, sliding, -⟩ := windows_limit_iff (Nat.le_refl 1) two
  obtain ⟨fixed', sliding', -⟩ := windows_limit_iff (Nat.le_refl 1) half
  refine ⟨⟨Nat.le_refl 1, two, half⟩, ⟨?_, ?_⟩, ?_, ?_⟩
  · rw [fixed]
    decide
  · rw [sliding]
    decide
  · rw [fixed']
    decide
  · rw [sliding']
    decide

/-- A window of half a millisecond and a threshold of one let three attempts through at one moment. -/
theorem half_milli_unlimited :
    let window : Duration := ⟨500000⟩
    let fixed : World := { limiters := ⟨#[.fixedWindow (FixedWindow.new 1 window).1 ⟨0⟩]⟩ }
    (0 < window.nanos ∧ window.Spans 1 [0, 0, 0]) ∧
      (fixed.attempts ⟨0⟩ ⟨0⟩ "" [0, 0, 0]).1 = [true, true, true] ∧
      ((SlidingWindow.alone 1 window).attempts ⟨0⟩ ⟨0⟩ "" [0, 0, 0]).1 = [true, true, true] := by
  intro window fixed
  refine ⟨⟨by simp [window], ?_⟩, ?_, ?_⟩
  · exact @Duration.spans_burst window 1 2 0 0 (Nat.le_refl _) Nat.one_pos (by simp [window])
  · have built : fixed.limiters.get ⟨0⟩ = .fixedWindow (FixedWindow.new 1 window).1 ⟨0⟩ := rfl
    rw [(World.attempts_fixedWindow built "" _).1]
    decide
  · rw [World.attempts_windowed (SlidingWindow.alone_windowed 1 window)]
    decide

end AdmissionControl
