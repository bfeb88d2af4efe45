import AdmissionControl.Breaker.Basic
/-!
Asking a breaker for a permit. An open breaker has to read its clock before it can answer, and
while it does, other callers may change it. So asking is split at the reading: `inquire` goes up
to it, `timed` goes on from it with what was seen before, and where `timed` has no answer the
caller inquires again.
-/

namespace AdmissionControl

/-- How far a caller has come: it has its answer, or it found the breaker open, remembers the word
and the timestamp it saw, and is about to read the clock. -/
inductive Inquiry where
  | granted (permit : Permit)
  | refused (refusal : CircuitOpen)
  | timing (seen : Word) (openedAt : Nat)
  deriving DecidableEq, Repr

namespace Breaker

/-- The refusal of a caller for whom the breaker has been open for some milliseconds. -/
def refusal (breaker : Breaker) (elapsed : Nat) : CircuitOpen :=
  ⟨breaker.failures, .ofMillis elapsed⟩

/-- Asks up to the answer, or up to the reading of the clock. -/
def inquire (breaker : Breaker) : Breaker × List Notice × Inquiry :=
  match breaker.word.state with
  | .closed => (breaker, [], .granted .ordinary)
  | .opened => (breaker, [], .timing breaker.word breaker.openedAt)
  | .halfOpen =>
    let limit := breaker.settings.halfOpenMaxCalls
    if limit ≤ breaker.trials then
      (breaker, [.rejected], .refused (breaker.refusal breaker.settings.recoveryMillis))
    else
      ({ breaker with trials := breaker.trials + 1 }, [.trialStarted (breaker.trials + 1) limit],
        .granted (.trial breaker.word.round))

/-- Goes on after the clock was read. The caller is refused if too little time has passed. Else it
clears the timestamp it saw, and if it was the one to clear it and the word is still the one it
saw, the breaker enters a new half-open round; either way it has to ask again. -/
def timed (breaker : Breaker) (seen : Word) (openedAt now : Nat) :
    Breaker × List Notice × Option CircuitOpen :=
  let elapsed := now - openedAt
  if elapsed < breaker.settings.recoveryMillis then
    (breaker, [.rejected], some (breaker.refusal elapsed))
  else if breaker.openedAt = openedAt then
    let cleared := { breaker with openedAt := notOpen }
    if cleared.word = seen then
      ({ cleared with word := ⟨.halfOpen, seen.round.next⟩ }, [.halfOpened], none)
    else (cleared, [], none)
  else (breaker, [], none)

end Breaker

end AdmissionControl
