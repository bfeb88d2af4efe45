import Mathlib.Data.Finset.Card
import AdmissionControl.Proofs.Breaker.Undisturbed
/-!
The three states that a breaker is meant to have. Its automaton knows no word, no rounds and no
counters: closed it has a streak of failures, open a moment since when, and half-open the callers
whose trials are on their way. Whatever callers do with a breaker, one after the other, they are
answered as the automaton answers them.
-/

namespace AdmissionControl

/-- What callers do: ask for a permit, or return the one that an earlier caller got. Callers are
numbered in the order in which they ask. -/
inductive Visit where
  | ask (now : Nat)
  | settle (caller : Nat) (verdict : Verdict) (now : Nat)
  deriving DecidableEq, Repr

/-- What can be seen of a visit: the answer to who asks, which says of a permit only whether it is
a trial, and how the breaker stands afterwards. -/
structure Sight where
  answer : Option (Except CircuitOpen Bool)
  state : CircuitState
  failures : Nat

namespace World

def sight (world : World) (ref : Ref Circuit) (answer : Option (Except CircuitOpen Bool)) : Sight :=
  ⟨answer, (world.breaker ref).state, (world.breaker ref).failures⟩

/-- One visit, at the moment to which the breaker's clock is set for it. The permits are those that
each caller still holds. -/
def visit (world : World) (ref : Ref Circuit) (permits : List (Option Permit)) :
    Visit → Sight × World × List (Option Permit)
  | .ask now =>
    let (answer, world) := (world.setClock (world.circuits.get ref).clock now).allow ref
    (world.sight ref (some (answer.map Permit.isTrial)), world, permits ++ [answer.toOption])
  | .settle caller verdict now =>
    match permits[caller]?.join with
    | none => (world.sight ref none, world, permits)
    | some permit =>
      let world := (world.setClock (world.circuits.get ref).clock now).resolve ref permit verdict
      (world.sight ref none, world, permits.set caller none)

def sights (world : World) (ref : Ref Circuit) (permits : List (Option Permit)) :
    List Visit → List Sight
  | [] => []
  | visit :: rest =>
    let (sight, world, permits) := world.visit ref permits visit
    sight :: world.sights ref permits rest

end World

/-- The three numbers that an automaton is given: failures in a row that open it, milliseconds for
which it stays open, and trials on their way at a time. -/
structure Limits where
  failures : Nat
  recovery : Nat
  trials : Nat

/-- The recovery time counts in whole milliseconds, at least one and no more than a clock shows. -/
def BreakerSettings.limits (settings : BreakerSettings) : Limits where
  failures := settings.failureThreshold
  recovery := min (max 1 (settings.recoveryTimeout.nanos / 1000000)) (UInt64.size - 1)
  trials := settings.halfOpenMaxCalls

/-- The three states. A generation of trials is the set of those of its callers who have not come
back. -/
inductive Mode where
  | closed (streak : Nat)
  | opened (since count : Nat)
  | halfOpen (trials : Finset Nat) (count : Nat)

namespace Mode

def state : Mode → CircuitState
  | closed _ => .closed
  | opened .. => .opened
  | halfOpen .. => .halfOpen

def failures : Mode → Nat
  | closed count | opened _ count | halfOpen _ count => count

def ask (limits : Limits) (caller now : Nat) : Mode → Except CircuitOpen Bool × Mode
  | closed streak => (.ok false, closed streak)
  | opened since count =>
    if now - since < limits.recovery then
      (.error ⟨count, .ofMillis (now - since)⟩, opened since count)
    else (.ok true, halfOpen {caller} count)
  | halfOpen trials count =>
    if trials.card < limits.trials then (.ok true, halfOpen (insert caller trials) count)
    else (.error ⟨count, .ofMillis limits.recovery⟩, halfOpen trials count)

def settle (limits : Limits) (caller : Nat) (isTrial : Bool) (now : Nat) :
    Verdict → Mode → Mode
  | .success, closed streak => if isTrial then closed streak else closed 0
  | .failure, closed streak =>
    if isTrial then closed streak
    else if streak + 1 = limits.failures then opened now limits.failures
    else closed (streak + 1)
  | .success, halfOpen trials count => if caller ∈ trials then closed 0 else halfOpen trials count
  | .failure, halfOpen trials count =>
    if caller ∈ trials then opened now (count + 1) else halfOpen trials count
  | .none, halfOpen trials count => halfOpen (trials.erase caller) count
  | _, mode => mode

end Mode

/-- A state, and for each caller what it holds: nothing, an ordinary permit or a trial. -/
structure Automaton where
  mode : Mode := .closed 0
  holds : List (Option Bool) := []

namespace Automaton

def sight (automaton : Automaton) (answer : Option (Except CircuitOpen Bool)) : Sight :=
  ⟨answer, automaton.mode.state, automaton.mode.failures⟩

def visit (limits : Limits) (automaton : Automaton) : Visit → Sight × Automaton
  | .ask now =>
    let (answer, mode) := automaton.mode.ask limits automaton.holds.length now
    let automaton : Automaton := ⟨mode, automaton.holds ++ [answer.toOption]⟩
    (automaton.sight (some answer), automaton)
  | .settle caller verdict now =>
    match automaton.holds[caller]?.join with
    | none => (automaton.sight none, automaton)
    | some isTrial =>
      let automaton : Automaton :=
        ⟨automaton.mode.settle limits caller isTrial now verdict, automaton.holds.set caller none⟩
      (automaton.sight none, automaton)

def sights (limits : Limits) (automaton : Automaton) : List Visit → List Sight
  | [] => []
  | visit :: rest =>
    let (sight, automaton) := automaton.visit limits visit
    sight :: automaton.sights limits rest

end Automaton

end AdmissionControl
