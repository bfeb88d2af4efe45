namespace AdmissionControl

/-- The number `mantissa * 2 ^ exponent`, or that below zero. -/
structure Binary64 where
  negative : Bool := false
  mantissa : Nat
  exponent : Int
  deriving DecidableEq, Repr, Inhabited

namespace Binary64

def leadingBit : Nat := 1 <<< 52

/-- The exponent of the smallest numbers, which have fewer significant bits. -/
def minExponent : Int := -1074

def maxExponent : Int := 971

def zero : Binary64 := ⟨false, 0, minExponent⟩

def shift (numerator denominator : Nat) (exponent : Int) : Nat × Nat :=
  if 0 ≤ exponent then (numerator <<< exponent.toNat, denominator)
  else (numerator, denominator <<< (-exponent).toNat)

/-- The nearest whole number; of two that are equally near, the even one. -/
def nearest (numerator denominator : Nat) : Nat :=
  let whole := numerator / denominator
  let rest := numerator % denominator
  if denominator < 2 * rest ∨ (denominator = 2 * rest ∧ whole % 2 = 1) then whole + 1 else whole

def ofRatio? (numerator denominator : Nat) : Option Binary64 :=
  if numerator = 0 then some zero
  else
    let guess : Int := (numerator.log2 : Int) - denominator.log2 - 52
    let (top, bottom) := shift numerator denominator (-guess)
    let exponent := max (if top / bottom < leadingBit then guess - 1 else guess) minExponent
    let (top, bottom) := shift numerator denominator (-exponent)
    let mantissa := nearest top bottom
    let rounded : Binary64 :=
      if mantissa = 2 * leadingBit then ⟨false, leadingBit, exponent + 1⟩
      else ⟨false, mantissa, exponent⟩
    if maxExponent < rounded.exponent then none else some rounded

def ratio (number : Binary64) : Nat × Nat := shift number.mantissa 1 number.exponent

def times? (number other : Binary64) : Option Binary64 :=
  ofRatio? (number.ratio.1 * other.ratio.1) (number.ratio.2 * other.ratio.2)

def dividedBy? (number other : Binary64) : Option Binary64 :=
  ofRatio? (number.ratio.1 * other.ratio.2) (number.ratio.2 * other.ratio.1)

/-- The largest exponent of a power of ten that is within range. -/
def maxPower : Nat := 308

def tenTo (exponent : Nat) : Binary64 := (ofRatio? (Nat.pow 10 exponent) 1).getD zero

/-- Divides by powers of ten, at most `maxPower` places at a time, and rounds each time. -/
def scaleDown (number : Binary64) (places : Nat) : Binary64 :=
  if places ≤ maxPower then (number.dividedBy? (tenTo places)).getD number
  else if number.mantissa = 0 then number
  else scaleDown ((number.dividedBy? (tenTo maxPower)).getD number) (places - maxPower)
termination_by places
decreasing_by simp only [maxPower] at *; omega

/-- The number `significand * 10 ^ exponent` as it is read: the significand is rounded first, and
then its product with the power of ten. There is none if that is beyond the largest. -/
def ofDecimal? (negative : Bool) (significand : Nat) (exponent : Int) : Option Binary64 := do
  let rounded ← ofRatio? significand 1
  let scaled ←
    if exponent < 0 then some (rounded.scaleDown exponent.natAbs)
    else if exponent ≤ maxPower then rounded.times? (tenTo exponent.toNat)
    else if rounded.mantissa = 0 then some rounded
    else none
  some { scaled with negative }

end Binary64

end AdmissionControl
