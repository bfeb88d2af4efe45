import AdmissionControl.Proofs.Breaker.Automaton
/-!
A breaker whose callers get in each other's way. Whoever reads the clock may be held up there while
others make whole calls, and those may be held up in the same way. So the callers who are held up
form a stack: the one that came last reads first. A run is a list of turns: a call begins, or the
innermost caller's reading comes to its end. That the calls of a world with interruptions are such
turns is `World.allow_plays` and `World.resolve_plays`.
-/

namespace AdmissionControl

/-- A caller who is held up in a reading of the clock: one who asks, found the breaker open, and has
had so many readings before; or one whose failure has opened the breaker, with the place of its call
in the record. -/
inductive HeldUp where
  | asking (seen : Word) (openedAt readings : Nat)
  | opening (opening : Opening) (place : Nat)

/-- How a run goes on: with a new call, or with the time that the innermost caller reads. -/
inductive Turn where
  | ask
  | settle (caller : Nat) (verdict : Verdict)
  | read (now : Nat)
  deriving DecidableEq, Repr

/-- A call that has taken effect, at the moment that its caller read last, and its answer. -/
structure Call where
  visit : Visit
  answer : Option (Except CircuitOpen Permit)
  deriving DecidableEq

def Visit.timed (now : Nat) : Visit → Visit
  | .ask _ => .ask now
  | .settle caller verdict _ => .settle caller verdict now

def Call.timed (now : Nat) (call : Call) : Call := { call with visit := call.visit.timed now }

/-- A breaker with all its callers. The permits are those that callers still hold, numbered as they
were answered. `heldUp` has the innermost caller first. The record has the calls in the order in
which they took effect: who asks is in it from the answer on, and who settles from the verdict on,
which is before it reads the clock. -/
structure Scene where
  breaker : Breaker
  permits : List (Option Permit) := []
  heldUp : List HeldUp := []
  record : List Call := []
  notices : List Notice := []

namespace Scene

def new (settings : BreakerSettings) : Scene := { breaker := .new settings }

def change (scene : Scene) (breaker : Breaker) (notices : List Notice) : Scene :=
  { scene with breaker, notices := scene.notices ++ notices }

def answer (scene : Scene) (now : Nat) (answer : Except CircuitOpen Permit) : Scene :=
  { scene with
    permits := scene.permits ++ [answer.toOption]
    record := scene.record ++ [⟨.ask now, some answer⟩] }

/-- Somebody asks, for the first time or again after so many readings. -/
def inquire (scene : Scene) (now readings : Nat) : Scene :=
  let (breaker, notices, inquiry) := scene.breaker.inquire
  let scene := scene.change breaker notices
  match inquiry with
  | .granted permit => scene.answer now (.ok permit)
  | .refused refusal => scene.answer now (.error refusal)
  | .timing seen openedAt =>
    { scene with heldUp := .asking seen openedAt readings :: scene.heldUp }

/-- A permit comes back to the breaker. A failure that opens it has yet to read the clock. -/
def giveBack (scene : Scene) (permit : Permit) (place : Nat) : Verdict → Scene
  | .success =>
    let (breaker, notices) := scene.breaker.succeed permit
    scene.change breaker notices
  | .none => scene.change (scene.breaker.discard permit) []
  | .failure =>
    let (breaker, opening?) := scene.breaker.fail permit
    let scene := scene.change breaker []
    match opening? with
    | none => scene
    | some opening => { scene with heldUp := .opening opening place :: scene.heldUp }

/-- An earlier caller settles. Who holds nothing has nothing to give back. -/
def settle (scene : Scene) (caller : Nat) (verdict : Verdict) : Scene :=
  let place := scene.record.length
  let settled : Scene :=
    { scene with
      permits := scene.permits.set caller none
      record := scene.record ++ [⟨.settle caller verdict 0, none⟩] }
  match scene.permits[caller]?.join with
  | none => settled
  | some permit => settled.giveBack permit place verdict

def read (scene : Scene) (now : Nat) : Scene :=
  match scene.heldUp with
  | [] => scene
  | .asking seen openedAt readings :: outer =>
    let (breaker, notices, refusal?) := scene.breaker.timed seen openedAt now
    let scene := { scene with heldUp := outer }.change breaker notices
    match refusal? with
    | some refusal => scene.answer now (.error refusal)
    | none => scene.inquire now (readings + 1)
  | .opening opening place :: outer =>
    let (breaker, notices) := scene.breaker.stamp opening now
    { scene with heldUp := outer, record := scene.record.modify place (Call.timed now) }.change
      breaker notices

def step (scene : Scene) : Turn → Scene
  | .ask => scene.inquire 0 0
  | .settle caller verdict => scene.settle caller verdict
  | .read now => scene.read now

def run (scene : Scene) (turns : List Turn) : Scene := turns.foldl step scene

variable {scene : Scene} {seen : Word} {openedAt readings now : Nat} {outer : List HeldUp}
  {breaker : Breaker} {notices : List Notice} {refusal : CircuitOpen}

theorem read_refused (heldUp : scene.heldUp = .asking seen openedAt readings :: outer)
    (timed : scene.breaker.timed seen openedAt now = (breaker, notices, some refusal)) :
    scene.read now =
      (({ scene with heldUp := outer } : Scene).change breaker notices).answer now
        (.error refusal) := by
  simp only [read, heldUp, timed]

theorem read_again (heldUp : scene.heldUp = .asking seen openedAt readings :: outer)
    (timed : scene.breaker.timed seen openedAt now = (breaker, notices, none)) :
    scene.read now =
      (({ scene with heldUp := outer } : Scene).change breaker notices).inquire now
        (readings + 1) := by
  simp only [read, heldUp, timed]

theorem read_stamped {opening : Opening} {place : Nat}
    (heldUp : scene.heldUp = .opening opening place :: outer) :
    scene.read now =
      ({ scene with heldUp := outer, record := scene.record.modify place (Call.timed now) } :
        Scene).change (scene.breaker.stamp opening now).1 (scene.breaker.stamp opening now).2 := by
  simp only [read, heldUp]

end Scene

namespace Turn

def reading? : Turn → Option Nat
  | read now => some now
  | _ => none

/-- The clock does not go back, and never shows its last moment. -/
def Rising (turns : List Turn) : Prop :=
  (turns.filterMap reading?).Pairwise (· ≤ ·) ∧ ∀ now ∈ turns.filterMap reading?, now < lastMilli

instance (turns : List Turn) : Decidable (Rising turns) := inferInstanceAs (Decidable (_ ∧ _))

def ofVisit : Visit → Turn
  | .ask _ => ask
  | .settle caller verdict _ => settle caller verdict

end Turn

/-- A breaker whose callers come one after the other, and the permits that they hold. -/
structure Desk where
  breaker : Breaker
  permits : List (Option Permit) := []

namespace Desk

def visit (desk : Desk) : Visit → Option (Except CircuitOpen Permit) × Desk
  | .ask now =>
    let (answer, breaker) := desk.breaker.ask now
    (some answer, ⟨breaker, desk.permits ++ [answer.toOption]⟩)
  | .settle caller verdict now =>
    match desk.permits[caller]?.join with
    | none => (none, ⟨desk.breaker, desk.permits.set caller none⟩)
    | some permit =>
      (none, ⟨desk.breaker.settle permit verdict now, desk.permits.set caller none⟩)

/-- The answers to one visit after the other, and how they leave the breaker. -/
def serve (desk : Desk) : List Visit → List (Option (Except CircuitOpen Permit)) × Desk
  | [] => ([], desk)
  | visit :: rest =>
    let (answer, desk) := desk.visit visit
    let (answers, desk) := desk.serve rest
    (answer :: answers, desk)

end Desk

end AdmissionControl
