import AdmissionControl.Config.Plan
import AdmissionControl.World.Limiters

namespace AdmissionControl

namespace World

/-- The clock of components that are given none. It stands still. -/
def ownClock : Ref Clock := ⟨0⟩

def initial : World := { clocks := ⟨#[{}]⟩ }

/-- Builds a bucket limiter, which from now on waits for its fills. -/
def buildBucket (world : World) (kind : Kind) (periodSetting : Setting) (capacity : Nat)
    (period : Duration) (initial : Nat) (wrap : Bucket → Limiter) :
    Except ConfigError (Ref Limiter) × World :=
  let (bucket, report) :=
    Bucket.new kind periodSetting capacity period initial world.now world.hasRuntime
  let world := world.record report
  match bucket with
  | .ok bucket =>
    let (ref, world) := world.addLimiter (wrap bucket)
    (.ok ref, world.scheduleFill ref)
  | .error error => (.error error, world)

/-- Builds a limiter. A fixed window reads the clock given, and a sliding window sends the moments
of the clock given for it, if any. -/
def build (world : World) (plan : LimiterPlan) (store : Option (Ref Store))
    (clock : Ref Clock := ownClock) (stamps : Option (Ref Clock) := none) :
    Except ConfigError (Ref Limiter) × World :=
  match plan with
  | .concurrency threshold =>
    let (limiter, report) := Concurrency.new threshold
    let (ref, world) := (world.record report).addLimiter (.concurrency limiter)
    (.ok ref, world)
  | .fixedWindow threshold window =>
    let (limiter, report) := FixedWindow.new threshold window
    let (ref, world) := (world.record report).addLimiter (.fixedWindow limiter clock)
    (.ok ref, world)
  | .slidingWindow threshold window policy timeout keyPrefix =>
    match store with
    | none => (.error .missingWindowStore, world)
    | some store =>
      let (limiter, report) := SlidingWindow.new threshold window
      let limiter := { limiter with policy }.withTimeout timeout
      let limiter := { limiter with keyPrefix := keyPrefix.getD limiter.keyPrefix }
      let (ref, world) := (world.record report).addLimiter (.slidingWindow limiter store stamps)
      (.ok ref, world)
  | .tokenBucket capacity interval initial =>
    world.buildBucket .tokenBucket .interval capacity interval initial .tokenBucket
  | .leakyBucket capacity rate initial =>
    world.buildBucket .leakyBucket .rate capacity rate initial .leakyBucket

/-- Builds limiters in order, up to the first that cannot be built. -/
def buildAll (world : World) (store : Option (Ref Store)) :
    List LimiterSpec → Except ConfigError (List (Ref Limiter)) × World
  | [] => (.ok [], world)
  | spec :: rest =>
    match world.build (.ofSpec spec) store with
    | (.error error, world) => (.error error, world)
    | (.ok ref, world) =>
      let (refs, world) := buildAll world store rest
      (refs.map (ref :: ·), world)

def buildBreaker (world : World) (settings : BreakerSettings × List Event)
    (clock : Ref Clock := ownClock) (blameless : List String := []) : Ref Circuit × World :=
  (world.record settings.2).addCircuit { breaker := .new settings.1, clock, blameless }

/-- Builds the pipeline of a description. The store serves all its sliding windows. -/
def buildStack (world : World) (config : AdmissionConfig) (store : Option (Ref Store)) :
    Except ConfigError Stack × World :=
  match world.buildAll store config.limiters with
  | (.error error, world) => (.error error, world)
  | (.ok limiters, world) =>
    let (breaker, world) := match config.circuitBreaker with
      | none => (none, world)
      | some spec => let (ref, world) := world.buildBreaker spec.settings; (some ref, world)
    let stack : Stack := { limiters, breaker }
    (.ok stack, world.record [.stackBuilt limiters.length breaker.isSome])

end World

end AdmissionControl
