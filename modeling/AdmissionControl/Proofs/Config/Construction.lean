import AdmissionControl.Proofs.Config.Negative

namespace AdmissionControl

def LimiterSpec.lacks (hasStore hasRuntime : Bool) : LimiterSpec → Option ConfigError
  | slidingWindow .. => if hasStore then none else some .missingWindowStore
  | tokenBucket .. | leakyBucket .. => if hasRuntime then none else some .noRuntime
  | concurrency _ | fixedWindow .. => none

def AdmissionConfig.lacks (config : AdmissionConfig) (hasStore hasRuntime : Bool) :
    Option ConfigError :=
  config.limiters.findSome? (LimiterSpec.lacks hasStore hasRuntime)

/-! ### Warnings -/

def Setting.replaced (setting : Setting) (part : Part) : Event :=
  match setting with
  | .threshold => .countReplaced part .threshold Defaults.threshold
  | .window => .durationReplaced part .window Defaults.window
  | .capacity => .countReplaced part .capacity Defaults.capacity
  | .interval => .durationReplaced part .interval Defaults.interval
  | .rate => .durationReplaced part .rate Defaults.interval
  | .failureThreshold => .countReplaced part .failureThreshold Defaults.failureThreshold
  | .recoveryTimeout => .durationReplaced part .recoveryTimeout Defaults.recoveryTimeout
  | .halfOpenMaxCalls => .countReplaced part .halfOpenMaxCalls Defaults.halfOpenMaxCalls

/-- One warning for each number that is not positive. -/
def replacements (part : Part) (numbers : List (Setting × Int64)) : List Event :=
  numbers.flatMap fun (setting, number) => if number ≤ 0 then [setting.replaced part] else []

/-- The numbers of a limiter that have to be positive, in the order in which they are looked at. -/
def LimiterSpec.numbers : LimiterSpec → List (Setting × Int64)
  | concurrency threshold => [(.threshold, threshold)]
  | fixedWindow threshold window => [(.threshold, threshold), (.window, window)]
  | slidingWindow threshold window .. => [(.window, window), (.threshold, threshold)]
  | tokenBucket capacity interval _ => [(.capacity, capacity), (.interval, interval)]
  | leakyBucket capacity rate _ => [(.capacity, capacity), (.rate, rate)]

def LimiterSpec.warnings (spec : LimiterSpec) : List Event :=
  replacements (.limiter spec.kind) spec.numbers

def BreakerSpec.warnings (spec : BreakerSpec) : List Event :=
  replacements .breaker [(.failureThreshold, spec.failureThreshold),
    (.recoveryTimeout, spec.recoveryTimeout), (.halfOpenMaxCalls, spec.halfOpenMaxCalls)]

/-- The warnings of a description, for its limiters in order and then for its breaker. -/
def AdmissionConfig.warnings (config : AdmissionConfig) : List Event :=
  config.limiters.flatMap LimiterSpec.warnings ++
    (config.circuitBreaker.map BreakerSpec.warnings).getD []

example :
    AdmissionConfig.warnings { limiters := [.fixedWindow 0 5, .tokenBucket (-3) 0 1] } =
      [.countReplaced (.limiter .fixedWindow) .threshold 100,
        .countReplaced (.limiter .tokenBucket) .capacity 100,
        .durationReplaced (.limiter .tokenBucket) .interval (.ofMillis 10)] := by decide

private theorem replacements_pair (part : Part) (one other : Setting × Int64) :
    replacements part [one, other] =
      (if one.2 ≤ 0 then [one.1.replaced part] else []) ++
        if other.2 ≤ 0 then [other.1.replaced part] else [] := by
  rw [replacements, List.flatMap_cons, List.flatMap_cons, List.flatMap_nil, List.append_nil]

def Event.isWarning (event : Event) : Bool := event.level = .warn

private theorem countOf_eq_zero {number : Int64} : countOf number = 0 ↔ number ≤ 0 := by
  rw [countOf, Int64.le_iff_toInt_le, Int64.toInt_zero, Int.toNat_eq_zero]

private theorem isZero_spanOf {millis : Int64} : (spanOf millis).isZero = true ↔ millis ≤ 0 := by
  rw [← countOf_eq_zero, countOf, spanOf, Duration.isZero, Duration.ofMillis, beq_iff_eq,
    Nat.mul_eq_zero]
  exact or_iff_left (Nat.ne_of_gt Duration.nanosPerMilli_pos)

private theorem filter_normalizeCount (part : Part) (setting : Setting) (number : Int64)
    (default : Nat) :
    (normalizeCount part setting (countOf number) default).2.filter Event.isWarning =
      if number ≤ 0 then [.countReplaced part setting default] else [] := by
  simp only [normalizeCount, countOf_eq_zero]
  split <;> rfl

private theorem filter_normalizeDuration (part : Part) (setting : Setting) (millis : Int64)
    (default : Duration) :
    (normalizeDuration part setting (spanOf millis) default).2.filter Event.isWarning =
      if millis ≤ 0 then [.durationReplaced part setting default] else [] := by
  simp only [normalizeDuration, isZero_spanOf]
  split <;> rfl

-- Stated for any numbers. Those of a description come out of words of 64 bits, into which checking
-- an equation by computation would descend.
private theorem Concurrency.new_snd (threshold : Nat) :
    (Concurrency.new threshold).2 =
      (normalizeCount (.limiter .concurrency) .threshold threshold Defaults.threshold).2 :=
  rfl

private theorem FixedWindow.new_snd (threshold : Nat) (window : Duration) :
    (FixedWindow.new threshold window).2 =
      (normalizeCount (.limiter .fixedWindow) .threshold threshold Defaults.threshold).2 ++
        (normalizeDuration (.limiter .fixedWindow) .window window Defaults.window).2 :=
  rfl

private theorem SlidingWindow.new_snd (threshold : Nat) (window : Duration) :
    (SlidingWindow.new threshold window).2 =
      (normalizeDuration (.limiter .slidingWindow) .window window Defaults.window).2 ++
        (normalizeCount (.limiter .slidingWindow) .threshold threshold Defaults.threshold).2 :=
  rfl

private theorem BreakerSettings.normalized_snd (failures : Nat) (recovery : Duration)
    (trials : Nat) :
    (normalized failures recovery trials).2 =
      (normalizeCount .breaker .failureThreshold failures Defaults.failureThreshold).2 ++
        (normalizeDuration .breaker .recoveryTimeout recovery Defaults.recoveryTimeout).2 ++
        (normalizeCount .breaker .halfOpenMaxCalls trials Defaults.halfOpenMaxCalls).2 :=
  rfl

private theorem Concurrency.filter_new (threshold : Int64) :
    (Concurrency.new (countOf threshold)).2.filter Event.isWarning =
      (LimiterSpec.concurrency threshold).warnings := by
  rw [new_snd, filter_normalizeCount, LimiterSpec.warnings, LimiterSpec.numbers, replacements,
    List.flatMap_cons, List.flatMap_nil, List.append_nil]
  rfl

private theorem FixedWindow.filter_new (threshold window : Int64) :
    (FixedWindow.new (countOf threshold) (spanOf window)).2.filter Event.isWarning =
      (LimiterSpec.fixedWindow threshold window).warnings := by
  rw [new_snd, List.filter_append, filter_normalizeCount, filter_normalizeDuration,
    LimiterSpec.warnings, LimiterSpec.numbers, replacements_pair]
  rfl

private theorem SlidingWindow.filter_new (threshold window timeout : Int64) (policy : FailurePolicy)
    (keyPrefix : Option String) :
    (SlidingWindow.new (countOf threshold) (spanOf window)).2.filter Event.isWarning =
      (LimiterSpec.slidingWindow threshold window policy timeout keyPrefix).warnings := by
  rw [new_snd, List.filter_append, filter_normalizeCount, filter_normalizeDuration,
    LimiterSpec.warnings, LimiterSpec.numbers, replacements_pair]
  rfl

private theorem Bucket.filter_new {kind : Kind} {setting : Setting}
    (named : setting.replaced (.limiter kind) =
      .durationReplaced (.limiter kind) setting Defaults.interval)
    (capacity period : Int64) {started : List Event}
    (quiet : started.filter Event.isWarning = []) :
    ((normalizeCount (.limiter kind) .capacity (countOf capacity) Defaults.capacity).2 ++
        (normalizeDuration (.limiter kind) setting (spanOf period) Defaults.interval).2 ++
        started).filter Event.isWarning =
      replacements (.limiter kind) [(.capacity, capacity), (setting, period)] := by
  rw [List.filter_append, List.filter_append, filter_normalizeCount, filter_normalizeDuration,
    quiet, List.append_nil, replacements_pair, named]
  rfl

private theorem BreakerSpec.filter_settings (spec : BreakerSpec) :
    spec.settings.2.filter Event.isWarning = spec.warnings := by
  rw [settings, BreakerSettings.normalized_snd, List.filter_append, List.filter_append,
    filter_normalizeCount, filter_normalizeCount, filter_normalizeDuration, warnings, replacements,
    List.flatMap_cons, List.flatMap_cons, List.flatMap_cons, List.flatMap_nil, List.append_nil,
    List.append_assoc]
  rfl

/-! ### Settings -/

private theorem wholeMillis_normalizeDuration {part : Part} {setting : Setting} {millis : Int64}
    {default : Duration} (positive : 0 < default.wholeMillis) :
    0 < (normalizeDuration part setting (spanOf millis) default).1.wholeMillis := by
  unfold normalizeDuration
  split
  · exact positive
  · next kept =>
    rw [isZero_spanOf, Int64.not_le] at kept
    rw [spanOf, Duration.wholeMillis_ofMillis (toNat_le_lastMilli millis)]
    exact toNat_pos kept

structure Bucket.Usable (bucket : Bucket) : Prop where
  capacity : 0 < bucket.capacity
  most : bucket.capacity ≤ maxDrops
  level : bucket.level ≤ bucket.capacity
  period : 0 < bucket.period.nanos

/-- No setting of a limiter is degenerate. A window lasts at least one millisecond. -/
def Limiter.Usable : Limiter → Prop
  | .concurrency limiter => 0 < limiter.threshold
  | .fixedWindow limiter _ => 0 < limiter.threshold ∧ 0 < limiter.window.wholeMillis
  | .slidingWindow limiter _ _ => 0 < limiter.threshold ∧ 0 < limiter.window.wholeMillis
  | .tokenBucket bucket | .leakyBucket bucket => bucket.Usable

structure BreakerSettings.Usable (settings : BreakerSettings) : Prop where
  failureThreshold : 0 < settings.failureThreshold
  recoveryTimeout : 0 < settings.recoveryTimeout.nanos
  halfOpenMaxCalls : 0 < settings.halfOpenMaxCalls

private theorem Concurrency.new_usable (threshold : Nat) :
    (Limiter.concurrency (Concurrency.new threshold).1).Usable :=
  normalizeCount_pos (by decide)

private theorem FixedWindow.new_usable {threshold : Nat} {window : Duration} {clock : Ref Clock}
    (long : 0 < (normalizeDuration (.limiter .fixedWindow) .window window
      Defaults.window).1.wholeMillis) :
    (Limiter.fixedWindow (FixedWindow.new threshold window).1 clock).Usable :=
  ⟨normalizeCount_pos (by decide), long⟩

private theorem SlidingWindow.new_usable {threshold : Nat} {window : Duration}
    (long : 0 < (normalizeDuration (.limiter .slidingWindow) .window window
      Defaults.window).1.wholeMillis) :
    0 < (SlidingWindow.new threshold window).1.threshold ∧
      0 < (SlidingWindow.new threshold window).1.window.wholeMillis :=
  ⟨normalizeCount_pos (by decide), long⟩

private theorem BreakerSettings.normalized_usable (failures : Nat) (recovery : Duration)
    (trials : Nat) :
    (normalized failures recovery trials).1.Usable where
  failureThreshold := normalizeCount_pos (by decide)
  recoveryTimeout := normalizeDuration_pos (by decide)
  halfOpenMaxCalls := normalizeCount_pos (by decide)

private theorem BreakerSpec.settings_usable (spec : BreakerSpec) : spec.settings.1.Usable :=
  BreakerSettings.normalized_usable ..

private theorem Breaker.new_settings (settings : BreakerSettings) :
    (Breaker.new settings).settings = settings :=
  rfl

private theorem Bucket.started_usable (kind : Kind) (setting : Setting) (capacity : Nat)
    (period : Duration) (initial now : Nat) :
    (Bucket.started kind setting capacity period initial now).Usable := by
  constructor
  case capacity =>
    have counted : 0 < (normalizeCount (.limiter kind) .capacity capacity
        Defaults.capacity).1 := normalizeCount_pos (by decide)
    exact Nat.lt_min.mpr ⟨counted, by decide⟩
  case most => exact Nat.min_le_right _ _
  case level => exact Nat.min_le_right _ _
  case period => exact normalizeDuration_pos (by decide)

namespace World

/-- Between two worlds some entries were written to the log, with these warnings among them. -/
def Warns (world after : World) (warnings : List Event) : Prop :=
  ∃ entries : List Event, after.journal.toList = world.journal.toList ++ entries ∧
    entries.filter Event.isWarning = warnings

theorem Warns.trans {world middle after : World} {first second : List Event}
    (earlier : world.Warns middle first) (later : middle.Warns after second) :
    world.Warns after (first ++ second) := by
  obtain ⟨entries, journal, rfl⟩ := earlier
  obtain ⟨further, journal', rfl⟩ := later
  refine ⟨entries ++ further, ?_, List.filter_append ..⟩
  rw [journal', journal, List.append_assoc]

private theorem Warns.record {world after : World} {entries warnings : List Event}
    (recorded : after.journal = (world.record entries).journal)
    (reported : entries.filter Event.isWarning = warnings) : world.Warns after warnings :=
  ⟨entries, recorded ▸ Array.toList_appendList, reported⟩

private theorem Warns.quiet {world middle : World} {warnings entries : List Event}
    (warns : world.Warns middle warnings) (quiet : entries.filter Event.isWarning = []) :
    world.Warns (middle.record entries) warnings := by
  have both := warns.trans (.record rfl quiet)
  rwa [List.append_nil] at both

/-- A limiter is put behind all others, and entries are written to the log. -/
structure Puts (world after : World) (limiter : Ref Limiter) (object : Limiter)
    (entries : List Event) : Prop where
  added : (limiter, after.limiters) = world.limiters.add object
  recorded : after.journal = (world.record entries).journal

variable {world after : World} {limiter : Ref Limiter} {store : Option (Ref Store)}

private theorem build_fixedWindow (world : World) (threshold : Nat) (window : Duration) :
    ∃ limiter after, world.build (.fixedWindow threshold window) store = (.ok limiter, after) ∧
      Puts world after limiter (.fixedWindow (FixedWindow.new threshold window).1 ownClock)
        (FixedWindow.new threshold window).2 :=
  ⟨_, _, rfl, rfl, rfl⟩

private theorem build_concurrency (world : World) (threshold : Nat) :
    ∃ limiter after, world.build (.concurrency threshold) store = (.ok limiter, after) ∧
      Puts world after limiter (.concurrency (Concurrency.new threshold).1)
        (Concurrency.new threshold).2 :=
  ⟨_, _, rfl, rfl, rfl⟩

private theorem build_slidingWindow (world : World) (store : Ref Store) (threshold : Nat)
    (window timeout : Duration) (policy : FailurePolicy) (keyPrefix : Option String) :
    ∃ limiter after sliding,
      world.build (.slidingWindow threshold window policy timeout keyPrefix) (some store) =
        (.ok limiter, after) ∧
      Puts world after limiter (.slidingWindow sliding store none)
        (SlidingWindow.new threshold window).2 ∧
      sliding.threshold = (SlidingWindow.new threshold window).1.threshold ∧
      sliding.window = (SlidingWindow.new threshold window).1.window :=
  ⟨_, _, _, rfl, ⟨rfl, rfl⟩, rfl, rfl⟩

private theorem buildBucket_cases (world : World) (kind : Kind) (setting : Setting) (capacity : Nat)
    (period : Duration) (initial : Nat) (wrap : Bucket → Limiter) :
    (world.hasRuntime = false ∧ ∃ after,
        world.buildBucket kind setting capacity period initial wrap =
          (.error .noRuntime, after)) ∨
      world.hasRuntime = true ∧ ∃ limiter after,
        world.buildBucket kind setting capacity period initial wrap = (.ok limiter, after) ∧
        ∃ started : List Event, started.filter Event.isWarning = [] ∧
          Puts world after limiter
            (wrap (Bucket.started kind setting capacity period initial world.now))
            ((normalizeCount (.limiter kind) .capacity capacity Defaults.capacity).2 ++
              (normalizeDuration (.limiter kind) setting period Defaults.interval).2 ++
              started) := by
  cases running : world.hasRuntime with
  | false =>
    refine .inl ⟨rfl, ?_⟩
    simp only [buildBucket, Bucket.new, running]
    exact ⟨_, rfl⟩
  | true =>
    refine .inr ⟨rfl, ?_⟩
    simp only [buildBucket, running]
    let bucket := Bucket.started kind setting capacity period initial world.now
    refine ⟨_, _, rfl, [.refillStarted kind bucket.capacity bucket.period initial], rfl, ?_, ?_⟩
    · exact Prod.ext rfl (setAlarm_blind World.limiters (fun _ _ => rfl) _ _ _)
    · exact setAlarm_blind World.journal (fun _ _ => rfl) _ _ _

/-- What building a limiter comes to. A limiter of the right kind is put behind all others. -/
structure Makes (world after : World) (spec : LimiterSpec) (limiter : Ref Limiter) : Prop where
  made : ∃ object : Limiter, (limiter, after.limiters) = world.limiters.add object ∧
    object.kind = spec.kind ∧ object.Usable
  warns : world.Warns after spec.warnings

variable {spec : LimiterSpec}

private theorem Puts.makes {object : Limiter} {entries : List Event}
    (puts : Puts world after limiter object entries) (kind : object.kind = spec.kind)
    (usable : object.Usable) (warnings : entries.filter Event.isWarning = spec.warnings) :
    Makes world after spec limiter :=
  ⟨⟨object, puts.added, kind, usable⟩, .record puts.recorded warnings⟩

/-- A limiter is built, unless it lacks something. -/
theorem build_exact (world : World) (store : Option (Ref Store)) (spec : LimiterSpec) :
    (∃ error after, spec.lacks store.isSome world.hasRuntime = some error ∧
        world.build (.ofSpec spec) store = (.error error, after)) ∨
      ∃ limiter after, spec.lacks store.isSome world.hasRuntime = none ∧
        world.build (.ofSpec spec) store = (.ok limiter, after) ∧
        Makes world after spec limiter := by
  cases spec with
  | concurrency threshold =>
    obtain ⟨limiter, after, built, puts⟩ := world.build_concurrency (countOf threshold)
    exact .inr ⟨limiter, after, rfl, built,
      puts.makes rfl (Concurrency.new_usable _) (Concurrency.filter_new _)⟩
  | fixedWindow threshold window =>
    obtain ⟨limiter, after, built, puts⟩ :=
      world.build_fixedWindow (countOf threshold) (spanOf window)
    refine .inr ⟨limiter, after, rfl, built, puts.makes rfl ?_ (FixedWindow.filter_new ..)⟩
    exact FixedWindow.new_usable (wholeMillis_normalizeDuration (by decide))
  | slidingWindow threshold window policy timeout keyPrefix =>
    cases store with
    | none => exact .inl ⟨_, _, rfl, rfl⟩
    | some store =>
      obtain ⟨limiter, after, sliding, built, puts, counted, long⟩ := world.build_slidingWindow store
        (countOf threshold) (spanOf window) (spanOf timeout) policy keyPrefix
      refine .inr ⟨limiter, after, rfl, built, puts.makes rfl ?_ (SlidingWindow.filter_new ..)⟩
      rw [Limiter.Usable, counted, long]
      exact SlidingWindow.new_usable (wholeMillis_normalizeDuration (by decide))
  | tokenBucket capacity interval initial =>
    rcases world.buildBucket_cases .tokenBucket .interval (countOf capacity) (spanOf interval)
        (countOf initial) .tokenBucket with
      ⟨stopped, after, failed⟩ | ⟨running, limiter, after, built, started, quiet, puts⟩
    · exact .inl ⟨_, after, by rw [LimiterSpec.lacks, stopped]; rfl, failed⟩
    · exact .inr ⟨limiter, after, by rw [LimiterSpec.lacks, running]; rfl, built,
        puts.makes rfl (Bucket.started_usable ..) (Bucket.filter_new rfl capacity interval quiet)⟩
  | leakyBucket capacity rate initial =>
    rcases world.buildBucket_cases .leakyBucket .rate (countOf capacity) (spanOf rate)
        ((initial.map countOf).getD unlimited) .leakyBucket with
      ⟨stopped, after, failed⟩ | ⟨running, limiter, after, built, started, quiet, puts⟩
    · exact .inl ⟨_, after, by rw [LimiterSpec.lacks, stopped]; rfl, failed⟩
    · exact .inr ⟨limiter, after, by rw [LimiterSpec.lacks, running]; rfl, built,
        puts.makes rfl (Bucket.started_usable ..) (Bucket.filter_new rfl capacity rate quiet)⟩

/-- What building limiters comes to. Each is of the right kind, and those that were there before
stay as they were. -/
structure MakesAll (world after : World) (specs : List LimiterSpec)
    (limiters : List (Ref Limiter)) : Prop where
  earlier : ∀ other, other.index < world.limiters.size →
    after.limiters.get other = world.limiters.get other
  kinds : limiters.map (fun limiter => (after.limiters.get limiter).kind) =
    specs.map LimiterSpec.kind
  usable : ∀ limiter ∈ limiters, (after.limiters.get limiter).Usable
  warns : world.Warns after (specs.flatMap LimiterSpec.warnings)

private theorem MakesAll.cons {middle : World} {specs : List LimiterSpec}
    {limiters : List (Ref Limiter)}
    (first : Makes world middle spec limiter) (rest : MakesAll middle after specs limiters) :
    MakesAll world after (spec :: specs) (limiter :: limiters) := by
  obtain ⟨object, added, kind, usable⟩ := first.made
  have place : limiter = (world.limiters.add object).1 := congrArg Prod.fst added
  have table : middle.limiters = (world.limiters.add object).2 := congrArg Prod.snd added
  have size : middle.limiters.size = world.limiters.size + 1 := by
    rw [table]
    exact Array.size_push _
  have still (other : Ref Limiter) (inside : other.index < world.limiters.size) :
      middle.limiters.get other = world.limiters.get other := by
    rw [table, Table.get_add_of_lt _ _ inside]
  have inside : limiter.index < middle.limiters.size := by
    rw [size, place]
    exact Nat.lt_succ_self _
  have found : after.limiters.get limiter = object := by
    rw [rest.earlier limiter inside, table, place, Table.get_add_self]
  constructor
  case earlier =>
    intro other before
    rw [rest.earlier other (by omega), still other before]
  case kinds => rw [List.map_cons, List.map_cons, rest.kinds, found, kind]
  case usable =>
    intro other member
    rcases List.mem_cons.mp member with rfl | later
    · exact found ▸ usable
    · exact rest.usable other later
  case warns => exact first.warns.trans rest.warns

/-- Limiters are built in order, up to the first that lacks something. -/
theorem buildAll_exact (world : World) (store : Option (Ref Store)) (specs : List LimiterSpec) :
    (∃ error after,
        specs.findSome? (LimiterSpec.lacks store.isSome world.hasRuntime) = some error ∧
        world.buildAll store specs = (.error error, after)) ∨
      ∃ limiters after,
        specs.findSome? (LimiterSpec.lacks store.isSome world.hasRuntime) = none ∧
        world.buildAll store specs = (.ok limiters, after) ∧
        MakesAll world after specs limiters := by
  induction specs generalizing world with
  | nil =>
    have nothing : world.Warns world [] := ⟨[], (List.append_nil _).symm, rfl⟩
    exact .inr ⟨[], world, rfl, rfl, fun _ _ => rfl, rfl, List.forall_mem_nil _, nothing⟩
  | cons spec rest ih =>
    rcases world.build_exact store spec with
      ⟨error, after, lacking, failed⟩ | ⟨limiter, middle, complete, built, makes⟩
    · refine .inl ⟨error, after, ?_, ?_⟩
      · rw [List.findSome?_cons, lacking]
      · simp only [buildAll, failed]
    · have passing := (world.build_passing (.ofSpec spec) store).1
      rw [built] at passing
      rcases ih middle with ⟨error, after, lacking, failed⟩ | ⟨limiters, after, others, all, made⟩
      · refine .inl ⟨error, after, ?_, ?_⟩
        · rw [List.findSome?_cons, complete, ← passing, lacking]
        · simp only [buildAll, built, failed, Except.map]
      · refine .inr ⟨limiter :: limiters, after, ?_, ?_, .cons makes made⟩
        · rw [List.findSome?_cons, complete, ← passing, others]
        · simp only [buildAll, built, all, Except.map]

private theorem record_breaker (world : World) (entries : List Event) (circuit : Ref Circuit) :
    (world.record entries).breaker circuit = world.breaker circuit :=
  rfl

private theorem buildBreaker_makes (world : World) (settings : BreakerSettings × List Event) :
    (world.buildBreaker settings).2.breaker (world.buildBreaker settings).1 =
        .new settings.1 ∧
      (world.buildBreaker settings).2.journal = (world.record settings.2).journal :=
  ⟨congrArg Circuit.breaker (Table.get_add_self _ _), rfl⟩

/-- A stack as its description wants it. Its limiters have the kinds of the description, in order,
and no setting of any of them or of its breaker is degenerate. There was one warning for each number
that is not positive, and no other. -/
structure Constructs (world after : World) (config : AdmissionConfig) (stack : Stack) : Prop where
  kinds : stack.limiters.map (fun limiter => (after.limiters.get limiter).kind) =
    config.limiters.map LimiterSpec.kind
  usable : ∀ limiter ∈ stack.limiters, (after.limiters.get limiter).Usable
  breaker : stack.breaker.isSome = config.circuitBreaker.isSome
  settings : ∀ circuit, stack.breaker = some circuit → (after.breaker circuit).settings.Usable
  warns : world.Warns after config.warnings

/-- A stack is built, unless a limiter lacks something. The first that does says what. -/
theorem buildStack_exact (world : World) (config : AdmissionConfig) (store : Option (Ref Store)) :
    (∃ error after, config.lacks store.isSome world.hasRuntime = some error ∧
        world.buildStack config store = (.error error, after)) ∨
      ∃ stack after, config.lacks store.isSome world.hasRuntime = none ∧
        world.buildStack config store = (.ok stack, after) ∧
        Constructs world after config stack := by
  rcases world.buildAll_exact store config.limiters with
    ⟨error, after, lacking, failed⟩ | ⟨limiters, middle, complete, all, made⟩
  · refine .inl ⟨error, after, lacking, ?_⟩
    simp only [buildStack, failed]
  · refine .inr ?_
    cases described : config.circuitBreaker with
    | none =>
      refine ⟨_, _, complete, by simp only [buildStack, all, described]; rfl, ?_⟩
      constructor
      case kinds => exact made.kinds
      case usable => exact made.usable
      case breaker => rw [described]; rfl
      case settings => exact fun _ none => by cases none
      case warns =>
        rw [AdmissionConfig.warnings, described, Option.map_none, Option.getD_none,
          List.append_nil]
        exact made.warns.quiet rfl
    | some spec =>
      obtain ⟨breaker, journal⟩ := middle.buildBreaker_makes spec.settings
      let guarded := (middle.buildBreaker spec.settings).2
      let after := guarded.record [.stackBuilt limiters.length true]
      have tables : after.limiters = middle.limiters :=
        (guarded.record_tables _).1.trans (middle.buildBreaker_tables spec.settings ownClock []).1
      refine ⟨{ limiters, breaker := some (middle.buildBreaker spec.settings).1 }, after,
        complete, by simp only [buildStack, all, described]; rfl, ?_⟩
      constructor
      case kinds =>
        rw [tables]
        exact made.kinds
      case usable =>
        rw [tables]
        exact made.usable
      case breaker => rw [described]; rfl
      case settings =>
        intro circuit same
        obtain rfl := Option.some.inj same
        rw [record_breaker, breaker, Breaker.new_settings]
        exact spec.settings_usable
      case warns =>
        rw [AdmissionConfig.warnings, described, Option.map_some, Option.getD_some]
        exact (made.warns.trans (.record journal spec.filter_settings)).quiet rfl

end World

end AdmissionControl
