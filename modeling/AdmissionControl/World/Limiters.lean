import AdmissionControl.World.Reading

namespace AdmissionControl

/-- What asking a limiter has come to: a decision, or a store that has yet to answer. -/
inductive Asked where
  | decided (decision : Decision)
  | waiting (consultation : Consultation)

/-- The key under which a request is counted. -/
def Context.windowKey (context : Context) : String := context.key.getD SlidingWindow.globalKey

namespace World

/-- Sends a request to a store. One without a moment is given that of the store's clock. -/
def consult (world : World) (ref : Ref Store) (request : WindowRequest) : Reply × World :=
  match world.stores.get ref with
  | .memory store clock =>
    let (now, world) := match request.now with
      | some now => (now, world)
      | none => world.read clock
    let (recorded, store, report) := store.recordIfBelow request now
    ({ answer := .ok recorded }, (world.setStore ref (.memory store clock)).record report)
  | .scripted store =>
    let (reply, store) := store.reply request
    (reply, world.setStore ref (.scripted store))

def beginConsultation (world : World) (limiter : SlidingWindow) (store : Ref Store)
    (clock : Option (Ref Clock)) (key : String) : Consultation × World :=
  let (now, world) := match clock with
    | some clock => let (now, world) := world.read clock; (some now, world)
    | none => (none, world)
  let (reply, world) := world.consult store (limiter.request key now)
  (.start reply.answer reply.delay world.now limiter.timeout, world)

/-- What a store's answer comes to. A failure is counted and logged, whatever the policy. -/
def weigh (world : World) (limiter : SlidingWindow) (key : String) (answer : StoreAnswer) :
    Decision × World :=
  match answer with
  | .ok _ => (limiter.weigh answer, world)
  | .error error =>
    let world := world.record [.storeFailed key error limiter.policy]
    (limiter.weigh answer,
      { world with metrics := world.metrics.recordBackendError .slidingWindow })

def answered (world : World) (ref : Ref Limiter) (context : Context) (answer : StoreAnswer) :
    Decision × World :=
  match world.limiters.get ref with
  | .slidingWindow limiter _ _ => world.weigh limiter context.windowKey answer
  | _ => (.granted, world)

/-- Asks a limiter. A caller who has gone is refused before the limiter looks at itself. -/
def ask (world : World) (ref : Ref Limiter) (context : Context) : Asked × World :=
  match context.abandoned? world.tokens world.now with
  | some reason => (.decided (.refuse reason), world)
  | none =>
    match world.limiters.get ref with
    | .concurrency limiter =>
      let (decision, limiter) := limiter.decide
      (.decided decision, world.setLimiter ref (.concurrency limiter))
    | .fixedWindow limiter clock =>
      let (now, world) := world.read clock
      let (decision, limiter) := limiter.decide now
      (.decided decision, world.setLimiter ref (.fixedWindow limiter clock))
    | .slidingWindow limiter store clock =>
      let (consultation, world) := world.beginConsultation limiter store clock context.windowKey
      match consultation.outcome? world.now with
      | none => (.waiting consultation, world)
      | some answer =>
        let (decision, world) := world.weigh limiter context.windowKey answer
        (.decided decision, world)
    | .tokenBucket bucket =>
      let (decision, bucket) := bucket.decide .tokensExhausted
      (.decided decision, world.setLimiter ref (.tokenBucket bucket))
    | .leakyBucket bucket =>
      let (decision, bucket) := bucket.decide .bucketEmpty
      (.decided decision, world.setLimiter ref (.leakyBucket bucket))

def account (world : World) (ref : Ref Limiter) (context : Context) (decision : Decision) :
    World :=
  let kind := (world.limiters.get ref).kind
  let world := match decision with
    | .granted => world
    | .refused reason retryAfter =>
      world.record [.requestRejected kind reason context.key retryAfter]
  { world with metrics := world.metrics.recordDecision kind decision }

def complete (world : World) (ref : Ref Limiter) : World :=
  { world with limiters := world.limiters.modify ref Limiter.complete }

/-- Sets the alarm for the next fill of a limiter's bucket. -/
def scheduleFill (world : World) (ref : Ref Limiter) : World :=
  world.setAlarm (.bucket ref) ((world.limiters.get ref).bucket?.bind Bucket.wake?)

/-- Fills a limiter's bucket as far as is due. -/
def refill (world : World) (ref : Ref Limiter) : World :=
  { world with
    limiters := world.limiters.modify ref (Limiter.mapBucket (·.visit world.now)) }.scheduleFill ref

/-- Stops the filling of a limiter's bucket for good. Only the first time is logged. -/
def shutdown (world : World) (ref : Ref Limiter) : World :=
  let limiter := world.limiters.get ref
  match limiter.bucket? with
  | none => world
  | some bucket =>
    if bucket.shutDown then world
    else (world.setLimiter ref (limiter.mapBucket Bucket.shutdown)).record
      [.refillStopped limiter.kind]

end World

end AdmissionControl
