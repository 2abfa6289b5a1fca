import Triage.Number.Notation

namespace Triage
namespace Number

/-!
Rounding of exact quotients.

A quotient goes to the nearest whole number, and from halfway to the even one.  The decimal
places of a double are rounded on its exact value, never on its digits.
-/

/-- The nearest whole number to a quotient, an exact half going to the even neighbour. -/
def roundDiv (numerator denominator : Nat) : Nat :=
  let quotient := numerator / denominator
  match compare (2 * (numerator % denominator)) denominator with
  | .lt => quotient
  | .gt => quotient + 1
  | .eq => if quotient % 2 == 0 then quotient else quotient + 1

theorem roundDiv_mul (quotient denominator : Nat) (positive : 0 < denominator) :
    roundDiv (quotient * denominator) denominator = quotient := by
  simp [roundDiv, Nat.mul_div_cancel _ positive, Nat.compare_eq_lt.mpr positive]

/-- A magnitude in units of `10 ^ -places`, rounded. -/
def Dyadic.roundTo (value : Dyadic) (places : Nat) : Nat :=
  roundDiv (value.mantissa * tenTo places * twoTo value.exponent.toNat)
    (twoTo (-value.exponent).toNat)

/-- Rounds a double to decimal places; values that are not finite stay. -/
def roundTo (x : Float) (places : Nat) : Float :=
  match shape x with
  | .finite value =>
      let rounded := Float.ofScientific (value.roundTo places) true places
      if value.negative then -rounded else rounded
  | _ => x

/-- A whole number of units of `10 ^ -places`, written with a decimal point. -/
def placesText (units places : Nat) : String :=
  let fraction := toString (units % tenTo places)
  toString (units / tenTo places) ++
    (if places == 0 then ""
    else "." ++ "".pushn '0' (places - fraction.length) ++ fraction)

/-- A double with a number of decimal places, as a text. -/
def fixedText (x : Float) (places : Nat) : String :=
  match shape x with
  | .finite value =>
      (if value.negative then "-" else "") ++ placesText (value.roundTo places) places
  | _ => Form.plain.write x

/-- The double nearest to `digits * 10 ^ exponent`; far outside the range it is infinite or zero. -/
def ofDecimal (digits : Nat) (exponent : Int) : Float :=
  let top := ((Nat.toDigits 10 digits).length : Int) + exponent
  if digits == 0 then 0.0
  else if top > 400 then 1.0 / 0.0
  else if top < -400 then 0.0
  else if 0 ≤ exponent then Float.ofScientific (digits * tenTo exponent.toNat) true 0
  else Float.ofScientific digits true (-exponent).toNat

/-- The least magnitude that is rounded beyond every double: half a unit above the largest one. -/
def beyondDoubles : Nat := twoTo 1024 - twoTo 970

/-- The double nearest to a whole number, unless every double is too small for it. -/
def ofInt? (n : Int) : Option Float :=
  let magnitude := ofDecimal n.natAbs 0
  if n.natAbs < beyondDoubles then some (if n < 0 then -magnitude else magnitude) else none

/-- The double `2 ^ exponent`, rounded to zero far below one, unless it lies beyond every double. -/
def powerOfTwo? (exponent : Int) : Option Float :=
  if 1024 ≤ exponent then none
  else if -1022 ≤ exponent then
    some (Float.ofBits (UInt64.ofNat ((exponent + 1023).toNat * twoTo 52)))
  else if -1074 ≤ exponent then
    some (Float.ofBits (UInt64.ofNat (twoTo (exponent + 1074).toNat)))
  else some 0.0

end Number
end Triage
