import Triage.Number.Binary64

namespace Triage
namespace Number

/-!
The fewest digits that read back.

A decimal reads back as a double when it lies between the midpoints to the two neighbouring
doubles, the midpoints included when the mantissa is even.  The digits of a double are the
fewest that read back, and of equally many the nearest.
-/

/-- A decimal number `digits * 10 ^ exponent`. -/
structure Decimal where
  digits : Nat
  exponent : Int
deriving DecidableEq, Repr

/--
The reals that read back as a positive double, over one common scale: the value, the two
midpoints, the divisor that turns them into reals, and whether the midpoints belong.
-/
structure Interval where
  low : Nat
  value : Nat
  high : Nat
  divisor : Nat
  closed : Bool

/-- The interval around `mantissa * 2 ^ exponent`; the gap below a power of two is halved. -/
def Interval.around (mantissa : Nat) (exponent : Int) : Interval :=
  let below := if mantissa == twoTo 52 && exponent > -1074 then 1 else 2
  let scale := twoTo (exponent - 2).toNat
  { low := (4 * mantissa - below) * scale
    value := 4 * mantissa * scale
    high := (4 * mantissa + 2) * scale
    divisor := twoTo (2 - exponent).toNat
    closed := mantissa % 2 == 0 }

/-- Whether `digits * 10 ^ exponent` lies in the interval. -/
def Interval.holds (interval : Interval) (d : Decimal) : Bool :=
  let point := d.digits * tenTo d.exponent.toNat * interval.divisor
  let unit := tenTo (-d.exponent).toNat
  if interval.closed then interval.low * unit ≤ point && point ≤ interval.high * unit
  else interval.low * unit < point && point < interval.high * unit

/-- Distance from the value, over the scale of the decimal's own grid. -/
def Interval.distance (interval : Interval) (d : Decimal) : Nat :=
  let point := d.digits * tenTo d.exponent.toNat * interval.divisor
  let value := interval.value * tenTo (-d.exponent).toNat
  (point - value) + (value - point)

/-- The two neighbours of the value on the grid of multiples of `10 ^ exponent`. -/
def Interval.neighbours (interval : Interval) (exponent : Int) : Decimal × Decimal :=
  let below := interval.value * tenTo (-exponent).toNat /
    (interval.divisor * tenTo exponent.toNat)
  (⟨below, exponent⟩, ⟨below + 1, exponent⟩)

/-- The neighbour that reads back and is nearest; an exact tie goes to the even digit. -/
def Interval.best? (interval : Interval) (exponent : Int) : Option Decimal :=
  let (below, above) := interval.neighbours exponent
  match interval.holds below && below.digits != 0, interval.holds above with
  | false, false => none
  | true, false => some below
  | false, true => some above
  | true, true =>
      match compare (interval.distance below) (interval.distance above) with
      | .lt => some below
      | .gt => some above
      | .eq => if below.digits % 2 == 0 then some below else some above

/-- Tries grids from a coarse one down, one decimal place at a time. -/
def Interval.search (interval : Interval) : Nat -> Int -> Decimal
  | 0, exponent => (interval.neighbours exponent).1
  | tries + 1, exponent =>
      match interval.best? exponent with
      | some found => found
      | none => interval.search tries (exponent - 1)

/-- Moves trailing zeros of the digits into the exponent; the fuel bounds their number. -/
def Decimal.trimZeros : Nat -> Decimal -> Decimal
  | 0, d => d
  | fuel + 1, d =>
      if d.digits != 0 && d.digits % 10 == 0 then
        Decimal.trimZeros fuel ⟨d.digits / 10, d.exponent + 1⟩
      else d

/-- An upper bound on the decimal exponent of `mantissa * 2 ^ exponent`. -/
def startExponent (mantissa : Nat) (exponent : Int) : Int :=
  ((mantissa.log2 : Int) + exponent + 1) * 30103 / 100000 + 2

/-- The shortest decimal of a positive finite double. -/
def shortest (mantissa : Nat) (exponent : Int) : Decimal :=
  let interval := Interval.around mantissa exponent
  (interval.search 24 (startExponent mantissa exponent)).trimZeros 24

/-- The digits of a decimal as characters. -/
def Decimal.text (d : Decimal) : List Char :=
  Nat.toDigits 10 d.digits

end Number
end Triage
