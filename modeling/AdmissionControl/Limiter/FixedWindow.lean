import AdmissionControl.Settings

namespace AdmissionControl

structure FixedWindow where
  threshold : Nat
  window : Duration
  start : Option Nat := none
  count : Nat := 0
  deriving DecidableEq, Repr, Inhabited

namespace FixedWindow

def new (threshold : Nat) (window : Duration) : FixedWindow × List Event :=
  let part := Part.limiter .fixedWindow
  let (threshold, thresholdReport) :=
    normalizeCount part .threshold threshold Defaults.threshold
  let (window, windowReport) := normalizeDuration part .window window Defaults.window
  ({ threshold, window }, thresholdReport ++ windowReport)

/-- An attempt at a moment: within the quota, or refused with the time left of the window. -/
def attempt (limiter : FixedWindow) (now : Nat) : Except Duration Unit × FixedWindow :=
  let window := limiter.window.wholeMillis
  let start := limiter.start.getD now
  let elapsed := now - start
  let current : FixedWindow :=
    if window ≤ elapsed then { limiter with start := some now, count := 0 }
    else { limiter with start := some start }
  if current.count < current.threshold then (.ok (), { current with count := current.count + 1 })
  else (.error (.ofMillis (window - elapsed)), current)

def decide (limiter : FixedWindow) (now : Nat) : Decision × FixedWindow :=
  match limiter.attempt now with
  | (.ok (), limiter) => (.granted, limiter)
  | (.error wait, limiter) => (.refuseFor .windowExhausted wait, limiter)

end FixedWindow

end AdmissionControl
