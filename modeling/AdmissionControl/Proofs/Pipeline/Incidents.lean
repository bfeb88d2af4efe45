import AdmissionControl.Proofs.Pipeline.Layering

namespace AdmissionControl

/-- Something that happens beside the requests. It does not see them, and leaves them alone. -/
structure Meanwhile where
  change : World → World
  blind : ∀ {one other : World}, one.Matches other → (change one).Matches (change other)
  spares : ∀ world, (change world).requests = world.requests

def Meanwhile.elapse (millis : Nat) : Meanwhile where
  change world := { world with now := world.now + millis }
  blind same := by
    rw [same.eq_note]
    rfl
  spares _ := rfl

/-- What happens in a sequence of requests. They are numbered in the order in which they are sent.
A handler that ends does so with a result of its own. -/
inductive Incident where
  | send (context : Context)
  | wake (place : Nat)
  | finish (place : Nat) (result : Except String Unit)
  | drop (place : Nat)
  | meanwhile (event : Meanwhile)

/-- What has become of a call. -/
inductive Progress (layers : List Layer) where
  | underway (call : Descent layers)
  | failed (error : Nested layers)
  | answered (result : Except (Nested layers) Unit)
  | dropped

namespace Progress

variable {layers : List Layer}

def ofEntered : Entered layers → Progress layers
  | .ok call => underway call
  | .error error => failed error

def phase : Progress layers → Phase
  | underway call => call.phase
  | failed error => .failed (Nested.collapse layers (.inner error))
  | answered result => .answered (outcomeOf layers result)
  | dropped => .dropped

def called : Progress layers → Bool
  | underway call =>
    match call.phase with
    | .handling => true
    | _ => false
  | answered _ => true
  | failed _ | dropped => false

/-- The result for the caller, with all levels of an error collapsed. -/
def outcome? : Progress layers → Option Outcome
  | failed error => some (outcomeOf layers (.error error))
  | answered result => some (outcomeOf layers result)
  | underway _ | dropped => none

end Progress

/-- A service that is built of layers, and the calls on it. -/
structure Tower (layers : List Layer) where
  world : World
  calls : List (Progress layers) := []

namespace Tower

variable {layers : List Layer}

def step (tower : Tower layers) : Incident → Tower layers
  | .send context =>
    let (entered, world) := tower.world.enter context layers
    { world, calls := tower.calls ++ [.ofEntered entered] }
  | .wake place =>
    match tower.calls[place]? with
    | some (.underway call) =>
      let (entered, world) := tower.world.wake call
      { world, calls := tower.calls.set place (.ofEntered entered) }
    | _ => tower
  | .finish place result =>
    match tower.calls[place]? with
    | some (.underway call) =>
      match World.finish call result tower.world with
      | some (result, world) => { world, calls := tower.calls.set place (.answered result) }
      | none => tower
    | _ => tower
  | .drop place =>
    match tower.calls[place]? with
    | some (.underway call) =>
      { world := World.dropCall call tower.world, calls := tower.calls.set place .dropped }
    | _ => tower
  | .meanwhile event => { tower with world := event.change tower.world }

theorem step_idle {tower : Tower layers} {place : Nat}
    (idle : ∀ call, tower.calls[place]? ≠ some (.underway call)) :
    tower.step (.wake place) = tower ∧ (∀ result, tower.step (.finish place result) = tower) ∧
      tower.step (.drop place) = tower := by
  cases found : tower.calls[place]? with
  | none => simp only [step, found, implies_true, and_self]
  | some progress =>
    cases progress with
    | underway call => exact absurd found (idle call)
    | failed error => simp only [step, found, implies_true, and_self]
    | answered result => simp only [step, found, implies_true, and_self]
    | dropped => simp only [step, found, implies_true, and_self]

def run (tower : Tower layers) (incidents : List Incident) : Tower layers :=
  incidents.foldl step tower

end Tower

def Request.waits (request : Request) : Bool :=
  match request.phase with
  | .consulting .. | .handling | .resting .. => true
  | _ => false

namespace World

/-- What an incident comes to for requests that are sent through a pipeline. The first of them has
the number `base`. -/
def step (pipeline : Pipeline) (base : Nat) (world : World) : Incident → World
  | .send context =>
    let (ref, world) := world.submit pipeline context
    world.start ref
  | .wake place => world.resume ⟨base + place⟩
  | .finish place result =>
    match (world.requests.get ⟨base + place⟩).phase with
    | .handling => world.answer ⟨base + place⟩ { outcome := outcomeOf [] result }
    | _ => world
  | .drop place =>
    if (world.requests.get ⟨base + place⟩).waits then world.drop ⟨base + place⟩ else world
  | .meanwhile event => event.change world

theorem step_idle {world : World} {base place : Nat} (pipeline : Pipeline)
    (idle : (world.requests.get ⟨base + place⟩).waits = false) :
    world.step pipeline base (.wake place) = world ∧
      (∀ result, world.step pipeline base (.finish place result) = world) ∧
      world.step pipeline base (.drop place) = world := by
  cases phase : (world.requests.get ⟨base + place⟩).phase <;>
    simp_all [step, resume, Request.waits]

def run (pipeline : Pipeline) (base : Nat) (world : World) (incidents : List Incident) : World :=
  incidents.foldl (step pipeline base) world

end World

end AdmissionControl
