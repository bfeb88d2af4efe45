import AdmissionControl.Breaker.Basic
/-!
Returning a permit to its breaker: with a success, with a failure, or without a verdict.

A failure that opens the breaker reads the clock for the timestamp, and other callers may act on
the open breaker before that. So it is split there: `fail` decides, and `stamp` puts in the time.
-/

namespace AdmissionControl

/-- How a call ended, as far as the breaker is concerned. -/
inductive Verdict where
  | success
  | failure
  | none
  deriving DecidableEq, Repr, Inhabited

/-- An opening that still lacks its timestamp: of a closed breaker that has counted its last
failure, or of a half-open one whose trial failed. -/
inductive Opening where
  | tripped (failures : Nat)
  | trialFailed
  deriving DecidableEq, Repr

namespace Breaker

/-- A success ends the failures in a row while the breaker is closed, and closes it if it is that
of a trial of the current round. -/
def succeed (breaker : Breaker) : Permit → Breaker × List Notice
  | .ordinary =>
    if breaker.word.state = .closed then ({ breaker with failures := 0 }, []) else (breaker, [])
  | .trial round =>
    if breaker.word = ⟨.halfOpen, round⟩ then
      ({ breaker with word := ⟨.closed, round⟩, failures := 0 }, [.closed])
    else (breaker, [])

/-- A failure counts while the breaker is closed and opens it at the threshold. That of a trial of
the current round opens it at once. -/
def fail (breaker : Breaker) : Permit → Breaker × Option Opening
  | .ordinary =>
    if breaker.word.state = .closed then
      let failures := breaker.failures + 1
      if failures < breaker.settings.failureThreshold then ({ breaker with failures }, none)
      else
        ({ breaker with failures, word := ⟨.opened, breaker.word.round⟩, trials := 0 },
          some (.tripped failures))
    else (breaker, none)
  | .trial round =>
    if breaker.word = ⟨.halfOpen, round⟩ then
      ({ breaker with word := ⟨.opened, round⟩, trials := 0 }, some .trialFailed)
    else (breaker, none)

/-- Puts in the time at which the breaker opened, and for a failed trial counts the failure. -/
def stamp (breaker : Breaker) (opening : Opening) (now : Nat) : Breaker × List Notice :=
  match opening with
  | .tripped failures =>
    ({ breaker with openedAt := now }, [.tripped failures breaker.settings.failureThreshold])
  | .trialFailed =>
    let failures := breaker.failures + 1
    ({ breaker with openedAt := now, failures }, [.trialFailed failures])

/-- A permit that comes back without a verdict. Only a trial of the current round gives its slot
back: a verdict ends the round, and the next opening takes all slots back. -/
def discard (breaker : Breaker) : Permit → Breaker
  | .ordinary => breaker
  | .trial round =>
    if breaker.word.round = round then { breaker with trials := breaker.trials - 1 } else breaker

end Breaker

/-- The verdict on a call's result: any success counts as one, an error of the handler counts as a
failure if it is to blame for it and as a success if not, and any other error says nothing. -/
def Verdict.ofResult {α : Type u} {ε : Type v} (blames : ε → Bool) :
    Except (AdmissionError ε) α → Verdict
  | .ok _ => .success
  | .error (.inner error) => if blames error then .failure else .success
  | .error _ => .none

end AdmissionControl
