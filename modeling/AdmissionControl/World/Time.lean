import AdmissionControl.World.Requests

namespace AdmissionControl

namespace World

/-- An alarm rings: a bucket is filled, or a request goes on. -/
def ring (world : World) : Sleeper → World
  | .bucket ref => world.refill ref
  | .request ref => world.resume ref

/-- Everything that is due happens. -/
def settle (world : World) : World :=
  let (due, later) := world.alarms.partition (·.moment ≤ world.now)
  (due.mergeSort fun one other => one.moment ≤ other.moment).foldl
    (fun world alarm => world.ring alarm.sleeper) { world with alarms := later }

/-- The next moment after now and before `target` for which there is an alarm. -/
def nextStop? (world : World) (target : Nat) : Option Nat :=
  ((world.alarms.map (·.moment)).filter fun moment => world.now < moment ∧ moment < target).min?

def reachWithin : Nat → World → Nat → World
  | 0, world, target => { world with now := max world.now target }
  | steps + 1, world, target =>
    match world.nextStop? target with
    | some moment => reachWithin steps { world with now := moment }.settle target
    | none => { world with now := max world.now target }

/-- Everything that is due before `target` happens in its time, and then it is that moment. Each
stop on the way is at least a millisecond after the one before. -/
def reach (world : World) (target : Nat) : World :=
  reachWithin (target - world.now) world.settle target

def sleepTo (world : World) (target : Nat) : World := (world.reach target).settle

def sleep (world : World) (millis : Nat) : World := world.sleepTo (world.now + millis)

/-- Jumps ahead without stopping on the way. -/
def jump (world : World) (millis : Nat) : World := { world with now := world.now + millis }.settle

def awaitWithin : Nat → World → Ref Request → World
  | 0, world, _ => world
  | steps + 1, world, ref =>
    match (world.requests.get ref).wake? with
    | some moment => awaitWithin steps (world.sleepTo moment) ref
    | none => world

/-- Sleeps until a request waits for nothing that time brings. Each stop takes it past a stage, or
past its handler. -/
def await (world : World) (ref : Ref Request) : World :=
  awaitWithin ((world.requests.get ref).ahead.length + 2) world ref

/-- The decision of a limiter, waited for in person. It is neither counted nor logged. -/
def decisionOf (world : World) (ref : Ref Limiter) (context : Context) : Decision × World :=
  match world.ask ref context with
  | (.decided decision, world) => (decision, world)
  | (.waiting consultation, world) =>
    (world.reach consultation.wake).answered ref context consultation.settled

def decide (world : World) (ref : Ref Limiter) (context : Context) : Decision × World :=
  let (decision, world) := world.decisionOf ref context
  (decision, world.settle)

def check (world : World) (limiter : SlidingWindow) (store : Ref Store)
    (clock : Option (Ref Clock)) (key : String) : StoreAnswer × World :=
  let (consultation, world) := world.beginConsultation limiter store clock key
  (consultation.settled, world.sleepTo consultation.wake)

/-- What an attempt at a limiter comes to that looks at no context, counts and logs nothing. -/
inductive Attempt where
  | passed
  | full
  | wait (left : Duration)
  | refused (reason : Reason)
  | failed (error : StoreError)

/-- Tries to pass a limiter. The key matters to a sliding window only. -/
def attempt (world : World) (ref : Ref Limiter) (key : String) : Attempt × World :=
  match world.limiters.get ref with
  | .concurrency limiter =>
    let (taken, limiter) := limiter.take
    (if taken then .passed else .full, world.setLimiter ref (.concurrency limiter))
  | .fixedWindow limiter clock =>
    let (now, world) := world.read clock
    let (result, limiter) := limiter.attempt now
    (match result with
      | .ok () => .passed
      | .error left => .wait left,
      world.setLimiter ref (.fixedWindow limiter clock))
  | .slidingWindow limiter store clock =>
    let (answer, world) := world.check limiter store clock key
    (match answer with
      | .ok recorded => if recorded then .passed else .full
      | .error error => .failed error, world)
  | .tokenBucket bucket =>
    let (result, bucket) := bucket.attempt .tokensExhausted
    (bucketAttempt result, world.setLimiter ref (.tokenBucket bucket))
  | .leakyBucket bucket =>
    let (result, bucket) := bucket.attempt .bucketEmpty
    (bucketAttempt result, world.setLimiter ref (.leakyBucket bucket))
where
  bucketAttempt : Except Reason Unit → Attempt
    | .ok () => .passed
    | .error reason => .refused reason

def consultStore (world : World) (ref : Ref Store) (request : WindowRequest) :
    StoreAnswer × World :=
  let (reply, world) := world.consult ref request
  (reply.answer, world.sleep reply.delay)

def drainFrom (world : World) (ref : Ref Limiter) (context : Context) :
    Nat → Nat → Nat × Option Decision × World
  | passed, 0 => (passed, none, world.settle)
  | passed, limit + 1 =>
    match world.decisionOf ref context with
    | (.granted, world) => drainFrom world ref context (passed + 1) limit
    | (refusal, world) => (passed, some refusal, world.settle)

/-- Asks a limiter again and again, at most `limit` times, until it refuses: how often it let the
caller through, and the refusal. The caller asks again before anything else happens. -/
def drain (world : World) (ref : Ref Limiter) (context : Context) (limit : Nat) :
    Nat × Option Decision × World :=
  world.drainFrom ref context 0 limit

/-- What stands whatever time brings: alarms of some sleepers ring and are taken off, and it gets
later. No others are set. -/
structure Abides (sleepers : Sleeper → Prop) (stands : World → Prop) : Prop where
  alarms : ∀ {world : World}, stands world → ∀ alarm ∈ world.alarms, sleepers alarm.sleeper
  ring : ∀ {world : World} {sleeper : Sleeper}, sleepers sleeper → stands world →
    stands (world.ring sleeper)
  off : ∀ {world : World} {alarms : List Alarm}, (∀ alarm ∈ alarms, alarm ∈ world.alarms) →
    stands world → stands { world with alarms }
  later : ∀ {world : World} {now : Nat}, world.now ≤ now → stands world →
    stands { world with now }

theorem settle_eq (world : World) :
    ∃ due later : List Alarm,
      world.settle = due.foldl (fun world alarm => world.ring alarm.sleeper)
        { world with alarms := later } ∧
      (∀ alarm, alarm ∈ due ↔ alarm ∈ world.alarms ∧ alarm.moment ≤ world.now) ∧
      ∀ alarm, alarm ∈ later ↔ alarm ∈ world.alarms ∧ world.now < alarm.moment := by
  let parts := world.alarms.partition (·.moment ≤ world.now)
  refine ⟨parts.1.mergeSort (fun one other => one.moment ≤ other.moment), parts.2, rfl, ?_, ?_⟩
  · intro alarm
    simp [parts]
  · intro alarm
    simp [parts]

namespace Abides

variable {sleepers : Sleeper → Prop} {stands : World → Prop} {world : World}

theorem settle (abides : Abides sleepers stands) (here : stands world) : stands world.settle := by
  have rung (due : List Alarm) : ∀ {world : World}, stands world →
      (∀ alarm ∈ due, sleepers alarm.sleeper) →
      stands (due.foldl (fun world alarm => world.ring alarm.sleeper) world) := by
    induction due with
    | nil => exact fun here _ => here
    | cons alarm rest ih =>
      intro world here asleep
      rw [List.forall_mem_cons] at asleep
      exact ih (abides.ring asleep.1 here) asleep.2
  obtain ⟨due, later, settles, rings, waits⟩ := world.settle_eq
  rw [settles]
  apply rung due (abides.off (fun alarm member => ((waits alarm).mp member).1) here)
  exact fun alarm member => abides.alarms here alarm ((rings alarm).mp member).1

private theorem reachWithin (abides : Abides sleepers stands) (here : stands world)
    (steps target : Nat) :
    stands (World.reachWithin steps world target) := by
  induction steps generalizing world with
  | zero => exact abides.later (Nat.le_max_left _ _) here
  | succ steps ih =>
    unfold World.reachWithin
    split
    · next moment stop =>
      have onward : world.now < moment := by
        have listed := List.mem_filter.mp (List.min?_mem stop)
        exact (of_decide_eq_true listed.2).1
      exact ih (abides.settle (abides.later (Nat.le_of_lt onward) here))
    · exact abides.later (Nat.le_max_left _ _) here

theorem reach (abides : Abides sleepers stands) (here : stands world) (target : Nat) :
    stands (world.reach target) := abides.reachWithin (abides.settle here) _ _

theorem sleepTo (abides : Abides sleepers stands) (here : stands world) (target : Nat) :
    stands (world.sleepTo target) := abides.settle (abides.reach here target)

theorem jump (abides : Abides sleepers stands) (here : stands world) (millis : Nat) :
    stands (world.jump millis) := abides.settle (abides.later (Nat.le_add_right _ _) here)

theorem await (abides : Abides sleepers stands) (here : stands world) (ref : Ref Request) :
    stands (world.await ref) := by
  have waited (steps : Nat) : ∀ {world : World}, stands world →
      stands (world.awaitWithin steps ref) := by
    induction steps with
    | zero => exact id
    | succ steps ih =>
      intro world here
      unfold World.awaitWithin
      split
      · exact ih (abides.sleepTo here _)
      · exact here
  exact waited _ here

end Abides

end World

end AdmissionControl
