namespace AdmissionControl

/-- The last moment a millisecond clock can show, and the longest span it can measure. -/
def lastMilli : Nat := UInt64.size - 1

/-- Addition of milliseconds that stays at `lastMilli` when it would pass it. -/
def addMillis (moment span : Nat) : Nat := min (moment + span) lastMilli

/-- A length of time in nanoseconds. -/
structure Duration where
  nanos : Nat
  deriving DecidableEq, Repr, Inhabited

namespace Duration

def nanosPerMilli : Nat := 1000000

def nanosPerSecond : Nat := 1000000000

def ofParts (seconds nanos : Nat) : Duration := ⟨seconds * nanosPerSecond + nanos⟩

def ofMillis (millis : Nat) : Duration := ⟨millis * nanosPerMilli⟩

def ofSeconds (seconds : Nat) : Duration := ofParts seconds 0

def zero : Duration := ⟨0⟩

/-- The longest duration: as many whole seconds as a 64-bit word counts, and one nanosecond
less than one more. -/
def longest : Duration := ofParts (UInt64.size - 1) (nanosPerSecond - 1)

def seconds (d : Duration) : Nat := d.nanos / nanosPerSecond

def subsecondNanos (d : Duration) : Nat := d.nanos % nanosPerSecond

def isZero (d : Duration) : Bool := d.nanos == 0

/-- The whole milliseconds of a duration, as far as a millisecond clock can count. -/
def wholeMillis (d : Duration) : Nat := min (d.nanos / nanosPerMilli) lastMilli

/-- The digits of a fraction of `width` places, without the zeros at its end. -/
def fractionDigits (width part : Nat) : List Char :=
  let digits := (toString part).toList
  let padded := List.replicate (width - digits.length) '0' ++ digits
  (padded.reverse.dropWhile (· == '0')).reverse

/-- `whole.part` with `width` places behind the point, and no point where nothing follows it. -/
def decimalText (whole width part : Nat) : String :=
  match fractionDigits width part with
  | [] => toString whole
  | digits => toString whole ++ "." ++ String.ofList digits

/-- The largest unit of which the duration holds at least one, with the rest as a fraction. -/
def text (d : Duration) : String :=
  if nanosPerSecond ≤ d.nanos then decimalText d.seconds 9 d.subsecondNanos ++ "s"
  else if nanosPerMilli ≤ d.nanos then
    decimalText (d.nanos / nanosPerMilli) 6 (d.nanos % nanosPerMilli) ++ "ms"
  else if 1000 ≤ d.nanos then decimalText (d.nanos / 1000) 3 (d.nanos % 1000) ++ "µs"
  else toString d.nanos ++ "ns"

end Duration

/-- The first whole millisecond at or after a moment given in nanoseconds. -/
def ceilMilli (nanos : Nat) : Nat :=
  (nanos + (Duration.nanosPerMilli - 1)) / Duration.nanosPerMilli

end AdmissionControl
