import Triage.Number.Rounding

namespace Triage

/-!
Quantities: whole numbers of any size, and doubles.

A quantity keeps the kind it was given in, and arithmetic keeps whole numbers whole as long
as it can.  Comparison is exact across the two kinds: both sides become fractions before
they meet, so a large whole number is never rounded to fit a double.
-/

/-- A whole number or a double. -/
inductive Quantity where
  | whole (n : Int)
  | real (x : Float)
deriving Repr, Inhabited

namespace Quantity

open Number

/-- A place on the number line with both infinite ends. -/
inductive Position where
  | bottom
  | at (value : Scaled)
  | top
deriving DecidableEq, Repr

/-- Where a quantity lies; the not-a-number lies nowhere. -/
def position? : Quantity -> Option Position
  | whole n => some (.at ⟨n, 0⟩)
  | real x =>
      match shape x with
      | .notANumber => none
      | .infinite true => some .bottom
      | .infinite false => some .top
      | .finite value => some (.at value.scaled)

/-- The order of two places. -/
def Position.order : Position -> Position -> Ordering
  | .bottom, .bottom => .eq
  | .bottom, _ => .lt
  | .at _, .bottom => .gt
  | .at a, .at b => a.order b
  | .at _, .top => .lt
  | .top, .top => .eq
  | .top, _ => .gt

/-- The order of two quantities, unless one of them is not a number. -/
def order? (a b : Quantity) : Option Ordering :=
  match a.position?, b.position? with
  | some p, some q => some (p.order q)
  | _, _ => none

/-- Strictly below; never so for the not-a-number. -/
def lt (a b : Quantity) : Bool := a.order? b == some .lt

/-- Below or equal. -/
def le (a b : Quantity) : Bool := a.order? b == some .lt || a.order? b == some .eq

/-- Numerically equal; the not-a-number equals nothing, itself included. -/
def same (a b : Quantity) : Bool := a.order? b == some .eq

/-- Equal, or both the not-a-number. -/
def sameKey (a b : Quantity) : Bool := a.same b || (a.position?.isNone && b.position?.isNone)

/-- The smaller of two; the first unless the second is strictly below it. -/
def least (a b : Quantity) : Quantity := if b.lt a then b else a

/-- The larger of two; the first unless the second is strictly above it. -/
def greatest (a b : Quantity) : Quantity := if a.lt b then b else a

/-- The double of a quantity, unless it is a whole number beyond every double. -/
def toFloat? : Quantity -> Option Float
  | whole n => ofInt? n
  | real x => some x

/-- Combines two quantities: whole numbers exactly, anything else as doubles. -/
def combine? (wholes : Int -> Int -> Int) (reals : Float -> Float -> Float)
    (a b : Quantity) : Option Quantity :=
  match a, b with
  | whole m, whole n => some (whole (wholes m n))
  | _, _ => do
      let x <- a.toFloat?
      let y <- b.toFloat?
      pure (real (reals x y))

/-- The sum. -/
def add? (a b : Quantity) : Option Quantity := combine? (· + ·) (· + ·) a b

/-- The product. -/
def mul? (a b : Quantity) : Option Quantity := combine? (· * ·) (· * ·) a b

/--
The quotient of two whole numbers as the nearest double, infinite beyond every double.  It is taken
with a few bits more than a double has, the last of which tells whether anything is left over.
-/
def ratio (numerator : Int) (denominator : Nat) : Float :=
  let spare : Int := (numerator.natAbs.log2 : Int) - denominator.log2 - 64
  let dividend := numerator.natAbs * twoTo (-spare).toNat
  let divisor := denominator * twoTo spare.toNat
  let sticky := if dividend % divisor == 0 then 0 else 1
  let quotient := 2 * (dividend / divisor) + sticky
  let magnitude := ofDecimal quotient 0 * (powerOfTwo? (spare - 1)).getD (1.0 / 0.0)
  if numerator < 0 then -magnitude else magnitude

def text : Quantity -> String
  | whole n => toString n
  | real x => Form.plain.write x

/-- Whether a quantity is zero, of either sign. -/
def isZero : Quantity -> Bool
  | whole n => n == 0
  | real x => x == 0.0

/-- Equal as the keys of a mapping are: numerically, whatever the kinds. -/
instance : BEq Quantity := ⟨same⟩

theorem lt_irrefl (a : Quantity) : a.lt a = false := by
  unfold lt order?
  cases a.position? with
  | none => rfl
  | some p => cases p <;> simp [Position.order, Scaled.order_self]

end Quantity
end Triage
