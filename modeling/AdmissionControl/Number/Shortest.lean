import AdmissionControl.Number.Binary64

namespace AdmissionControl

/-- The value `digits * 10 ^ exponent`. -/
structure Decimal where
  digits : Nat
  exponent : Int
  deriving DecidableEq, Repr, Inhabited

namespace Decimal

def trimmed (digits : Nat) (exponent : Int) : Decimal :=
  if digits ≠ 0 ∧ digits % 10 = 0 then trimmed (digits / 10) (exponent + 1)
  else ⟨digits, exponent⟩
termination_by digits
decreasing_by omega

def ratio (decimal : Decimal) : Nat × Nat :=
  if 0 ≤ decimal.exponent then (decimal.digits * Nat.pow 10 decimal.exponent.toNat, 1)
  else (decimal.digits, Nat.pow 10 (-decimal.exponent).toNat)

end Decimal

def ratioLe (one other : Nat × Nat) : Bool := one.1 * other.2 ≤ other.1 * one.2

def ratioDistance (one other : Nat × Nat) : Nat × Nat :=
  ((one.1 * other.2 - other.1 * one.2) + (other.1 * one.2 - one.1 * other.2), one.2 * other.2)

namespace Binary64

/-- The ends of the interval of values that round to a number. Below a power of two the numbers
lie twice as dense. -/
def neighbourhood (number : Binary64) : (Nat × Nat) × (Nat × Nat) :=
  let m := 4 * number.mantissa
  let below := if number.mantissa = leadingBit ∧ minExponent < number.exponent then 1 else 2
  (shift (m - below) 1 (number.exponent - 2), shift (m + 2) 1 (number.exponent - 2))

/-- Whether a decimal reads back as the number. The ends of the interval do if the number's
significand is even. -/
def readsBack (number : Binary64) (decimal : Decimal) : Bool :=
  let (low, high) := number.neighbourhood
  let value := decimal.ratio
  if number.mantissa % 2 = 0 then ratioLe low value && ratioLe value high
  else !ratioLe value low && !ratioLe high value

/-- The decimal of a given unit next to the number that reads back as it, the nearer one if both
neighbours do, and of two equally near the even one. -/
def onGrid? (number : Binary64) (exponent : Int) : Option Decimal :=
  let (top, bottom) := number.ratio
  let floor :=
    if 0 ≤ exponent then top / (bottom * Nat.pow 10 exponent.toNat)
    else top * Nat.pow 10 (-exponent).toNat / bottom
  let low : Decimal := ⟨floor, exponent⟩
  let high : Decimal := ⟨floor + 1, exponent⟩
  match number.readsBack low, number.readsBack high with
  | false, false => none
  | true, false => some low
  | false, true => some high
  | true, true =>
    let below := ratioDistance number.ratio low.ratio
    let above := ratioDistance number.ratio high.ratio
    if ratioLe below above && (!ratioLe above below || floor % 2 = 0) then some low else some high

def leadingExponent (number : Binary64) : Int :=
  let (top, bottom) := number.ratio
  if bottom ≤ top then ((toString (top / bottom)).length : Int) - 1
  else
    -- as many places down as it takes for the first digit to come before the point
    let guess : Nat := (bottom / top).log2 * 30103 / 100000
    if bottom ≤ top * Nat.pow 10 guess then -(guess : Int)
    else if bottom ≤ top * Nat.pow 10 (guess + 1) then -(guess + 1 : Int)
    else -(guess + 2 : Int)

def searchFrom (number : Binary64) (exponent : Int) : Nat → Decimal
  | 0 => (number.onGrid? exponent).getD ⟨0, exponent⟩
  | finer + 1 =>
    match number.onGrid? exponent with
    | some decimal => decimal
    | none => searchFrom number (exponent - 1) finer

/-- The decimal of the fewest digits that reads back as the number. Seventeen are always enough. -/
def shortest (number : Binary64) : Decimal :=
  if number.mantissa = 0 then ⟨0, 0⟩
  else
    let found := number.searchFrom number.leadingExponent 17
    Decimal.trimmed found.digits found.exponent

/-- How a number is written: with a point for magnitudes from `10 ^ -5` up to `10 ^ 16`, and else
with an exponent that always has its sign. Behind a point there is always a digit. -/
def text (number : Binary64) : String :=
  let sign := if number.negative then "-" else ""
  if number.mantissa = 0 then sign ++ "0.0"
  else
    let decimal := number.shortest
    let digits := (toString decimal.digits).toList
    let point : Int := digits.length + decimal.exponent
    let zeros (count : Int) : List Char := List.replicate count.toNat '0'
    sign ++ String.ofList (
      if 0 ≤ decimal.exponent ∧ point ≤ 16 then digits ++ zeros decimal.exponent ++ ['.', '0']
      else if 0 < point ∧ point ≤ 16 then
        digits.take point.toNat ++ ['.'] ++ digits.drop point.toNat
      else if -5 < point ∧ point ≤ 0 then ['0', '.'] ++ zeros (-point) ++ digits
      else
        let mantissa := match digits with
          | [] => []
          | [digit] => [digit]
          | digit :: rest => digit :: '.' :: rest
        let mark := if 1 ≤ point then ['e', '+'] else ['e']
        mantissa ++ mark ++ (toString (point - 1)).toList)

end Binary64

end AdmissionControl
