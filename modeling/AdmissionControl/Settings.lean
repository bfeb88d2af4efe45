import AdmissionControl.Event
/-!
Default settings, and the rule that puts them in: a count or a duration of zero is replaced and
the replacement is reported, so that nothing is ever built with a setting that is not positive.
-/

namespace AdmissionControl

/-- The largest count a 64-bit word holds. It stands for "no limit". -/
def unlimited : Nat := UInt64.size - 1

namespace Defaults

def capacity : Nat := 100

def threshold : Nat := 100

def interval : Duration := .ofMillis 10

def window : Duration := .ofSeconds 1

def failureThreshold : Nat := 5

def recoveryTimeout : Duration := .ofSeconds 30

def halfOpenMaxCalls : Nat := 1

end Defaults

/-- A count as it will be used, and the report of a replacement. -/
def normalizeCount (part : Part) (setting : Setting) (value default : Nat) : Nat × List Event :=
  if value = 0 then (default, [.countReplaced part setting default]) else (value, [])

/-- A duration as it will be used, and the report of a replacement. -/
def normalizeDuration (part : Part) (setting : Setting) (value default : Duration) :
    Duration × List Event :=
  if value.isZero then (default, [.durationReplaced part setting default]) else (value, [])

theorem normalizeCount_pos {part : Part} {setting : Setting} {value default : Nat}
    (positive : 0 < default) : 0 < (normalizeCount part setting value default).1 := by
  unfold normalizeCount
  split
  · exact positive
  · exact Nat.pos_of_ne_zero (by assumption)

theorem normalizeDuration_pos {part : Part} {setting : Setting} {value default : Duration}
    (positive : 0 < default.nanos) :
    0 < (normalizeDuration part setting value default).1.nanos := by
  unfold normalizeDuration
  split
  · exact positive
  · next nonzero => exact Nat.pos_of_ne_zero (by simpa [Duration.isZero] using nonzero)

end AdmissionControl
