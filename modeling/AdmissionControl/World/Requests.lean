import AdmissionControl.World.Limiters

namespace AdmissionControl

namespace World

/-- Gives back what a request holds: a limiter is told that the request has ended, and a permit is
returned with the verdict for its breaker. -/
def giveBack (verdict : Circuit → Verdict) (world : World) : List Held → World
  | [] => world
  | .completion ref :: rest => giveBack verdict (world.complete ref) rest
  | .permit ref permit :: rest =>
    giveBack verdict (world.resolve ref permit (verdict (world.circuits.get ref))) rest

/-- Ends a request whose result is an error, known before its handler was called. -/
def refuse (world : World) (request : Request) (error : AdmissionError String) : Request × World :=
  ({ request with ahead := [], held := [], phase := .failed error },
    world.giveBack ((Outcome.failure error).verdict request.nesting) request.held)

/-- Ends a request as its handler does. -/
def conclude (world : World) (request : Request) (outcome : Outcome) : Request × World :=
  ({ request with held := [], phase := .answered outcome },
    world.giveBack (outcome.verdict request.nesting) request.held)

/-- Lets the handler of a request run. One that takes no time ends at once. -/
def handle (world : World) (request : Request) : Request × World :=
  match request.response with
  | none => ({ request with phase := .handling }, world)
  | some response =>
    if response.delay = 0 then world.conclude request response.outcome
    else
      ({ request with phase := .resting (world.now + response.delay) response.outcome }, world)

/-- Takes a request through the stages ahead of it, as far as it comes. -/
def pass (world : World) (request : Request) : List Stage → Request × World
  | [] => world.handle { request with ahead := [] }
  | .limiter ref context :: rest =>
    match world.ask ref context with
    | (.waiting consultation, world) =>
      ({ request with ahead := rest, phase := .consulting ref context consultation }, world)
    | (.decided decision, world) =>
      let world := world.account ref context decision
      match decision.toExcept with
      | .ok () => pass world (request.hold (.completion ref)) rest
      | .error error => world.refuse request error
  | .breaker ref :: rest =>
    match world.allow ref with
    | (.ok permit, world) => pass world (request.hold (.permit ref permit)) rest
    | (.error refusal, world) => world.refuse request refusal.toError

/-- Takes a request on whose store has answered. -/
def passOn (world : World) (request : Request) (ref : Ref Limiter) (context : Context)
    (answer : StoreAnswer) : Request × World :=
  let (decision, world) := world.answered ref context answer
  let world := world.account ref context decision
  match decision.toExcept with
  | .ok () => world.pass (request.hold (.completion ref)) request.ahead
  | .error error => world.refuse request error

/-- A request that is ready to be sent and has not been. Being made ready takes it through a
breaker that is the outermost layer of a service, and through nothing else. -/
def prepare (world : World) (pipeline : Pipeline) (context : Context) : Request × World :=
  let nesting := pipeline.nesting
  match pipeline.unready? with
  | some text => ({ nesting, phase := .failed (.inner text) }, world)
  | none =>
    match nesting, pipeline.stages context with
    | .layered, .breaker ref :: rest =>
      match world.allow ref with
      | (.ok permit, world) => ({ nesting, ahead := rest, held := [.permit ref permit] }, world)
      | (.error refusal, world) => ({ nesting, phase := .failed refusal.toError }, world)
    | _, stages => ({ nesting, ahead := stages }, world)

def submit (world : World) (pipeline : Pipeline) (context : Context) : Ref Request × World :=
  let (request, world) := world.prepare pipeline context
  let (ref, requests) := world.requests.add request
  (ref, { world with requests })

/-- Notes where a request has come to, and sets its alarm if it waits for a moment. -/
def place (world : World) (ref : Ref Request) (request : Request) : World :=
  (world.setRequest ref request).setAlarm (.request ref) request.wake?

def start (world : World) (ref : Ref Request) : World :=
  let request := { world.requests.get ref with polled := true }
  match request.phase with
  | .fresh =>
    let (request, world) := world.pass request request.ahead
    world.place ref request
  | _ => world.setRequest ref request

/-- Tells the handler of a request what to do, which may be before it is called. -/
def answer (world : World) (ref : Ref Request) (response : Response) : World :=
  let request := { world.requests.get ref with response := some response }
  match request.phase with
  | .handling =>
    let (request, world) := world.handle request
    world.place ref request
  | _ => world.setRequest ref request

/-- Takes a waiting request on if its store has answered, or kept it waiting for too long, or if its
handler has come to its end. -/
def resume (world : World) (ref : Ref Request) : World :=
  let request := world.requests.get ref
  match request.phase with
  | .consulting limiter context consultation =>
    match consultation.outcome? world.now with
    | none => world
    | some answer =>
      let (request, world) := world.passOn request limiter context answer
      world.place ref request
  | .resting moment outcome =>
    if moment ≤ world.now then
      let (request, world) := world.conclude request outcome
      world.place ref request
    else world
  | _ => world

/-- Drops a request wherever it is. What it holds goes back without a verdict. -/
def drop (world : World) (ref : Ref Request) : World :=
  let request := world.requests.get ref
  (world.setRequest ref { request with ahead := [], held := [], phase := .dropped }).giveBack
    (fun _ => .none) request.held

/-- What holds between the worlds before and after whatever happens at the end of a request:
limiters are told of it, and permits come back. -/
structure Endures (relates : World → World → Prop) : Prop where
  refl : ∀ world, relates world world
  trans : ∀ {world middle after : World}, relates world middle → relates middle after →
    relates world after
  complete : ∀ (world : World) (ref : Ref Limiter), relates world (world.complete ref)
  resolve : ∀ (world : World) (ref : Ref Circuit) (permit : Permit) (verdict : Verdict),
    relates world (world.resolve ref permit verdict)

namespace Endures

variable {relates : World → World → Prop}

theorem giveBack (endures : Endures relates) (verdict : Circuit → Verdict) (world : World)
    (held : List Held) : relates world (world.giveBack verdict held) := by
  induction held generalizing world with
  | nil => exact endures.refl world
  | cons first rest ih =>
    cases first with
    | completion ref => exact endures.trans (endures.complete world ref) (ih _)
    | permit ref permit => exact endures.trans (endures.resolve world ref permit _) (ih _)

theorem refuse (endures : Endures relates) (world : World) (request : Request)
    (error : AdmissionError String) : relates world (world.refuse request error).2 :=
  endures.giveBack _ _ _

theorem conclude (endures : Endures relates) (world : World) (request : Request)
    (outcome : Outcome) : relates world (world.conclude request outcome).2 :=
  endures.giveBack _ _ _

theorem handle (endures : Endures relates) (world : World) (request : Request) :
    relates world (world.handle request).2 := by
  unfold World.handle
  split
  · exact endures.refl world
  · split
    · exact endures.conclude _ _ _
    · exact endures.refl world

end Endures

/-- What holds between the worlds before and after whatever happens to a request on its way:
limiters and breakers are asked besides. -/
structure Accompanies (relates : World → World → Prop) : Prop extends Endures relates where
  ask : ∀ (world : World) (ref : Ref Limiter) (context : Context),
    relates world (world.ask ref context).2
  answered : ∀ (world : World) (ref : Ref Limiter) (context : Context) (answer : StoreAnswer),
    relates world (world.answered ref context answer).2
  account : ∀ (world : World) (ref : Ref Limiter) (context : Context) (decision : Decision),
    relates world (world.account ref context decision)
  allow : ∀ (world : World) (ref : Ref Circuit), relates world (world.allow ref).2

namespace Accompanies

variable {relates : World → World → Prop}

theorem pass (accompanies : Accompanies relates) (world : World) (request : Request)
    (stages : List Stage) : relates world (world.pass request stages).2 := by
  induction stages generalizing world request with
  | nil => exact accompanies.handle _ _
  | cons stage rest ih =>
    cases stage with
    | limiter ref context =>
      have asked := accompanies.ask world ref context
      unfold World.pass
      split
      · next same =>
        rw [same] at asked
        exact asked
      · next decision left same =>
        rw [same] at asked
        have accounted := accompanies.trans asked (accompanies.account left ref context decision)
        simp only []
        split
        · exact accompanies.trans accounted (ih _ _)
        · exact accompanies.trans accounted (accompanies.refuse _ _ _)
    | breaker ref =>
      have allowed := accompanies.allow world ref
      unfold World.pass
      split
      · next same =>
        rw [same] at allowed
        exact accompanies.trans allowed (ih _ _)
      · next same =>
        rw [same] at allowed
        exact accompanies.trans allowed (accompanies.refuse _ _ _)

theorem passOn (accompanies : Accompanies relates) (world : World) (request : Request)
    (ref : Ref Limiter) (context : Context) (answer : StoreAnswer) :
    relates world (world.passOn request ref context answer).2 := by
  have accounted := accompanies.trans (accompanies.answered world ref context answer)
    (accompanies.account _ ref context (world.answered ref context answer).1)
  unfold World.passOn
  simp only []
  split
  · exact accompanies.trans accounted (accompanies.pass _ _ _)
  · exact accompanies.trans accounted (accompanies.refuse _ _ _)

theorem prepare (accompanies : Accompanies relates) (world : World) (pipeline : Pipeline)
    (context : Context) : relates world (world.prepare pipeline context).2 := by
  unfold World.prepare
  simp only []
  split
  · exact accompanies.refl world
  · split
    · next ref rest _ _ =>
      have allowed := accompanies.allow world ref
      split <;> next same =>
        rw [same] at allowed
        exact allowed
    · exact accompanies.refl world

end Accompanies

end World

end AdmissionControl
