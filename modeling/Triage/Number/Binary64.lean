namespace Triage
namespace Number

/-!
The exact value of a double.

A finite double is a whole mantissa times a power of two, with a sign.  Everything the
library says about the text or the order of doubles starts from this reading of their bits,
so no statement depends on a printing or comparing primitive.
-/

abbrev twoTo (n : Nat) : Nat := Nat.pow 2 n

abbrev tenTo (n : Nat) : Nat := Nat.pow 10 n

/-- A finite double: `mantissa * 2 ^ exponent`, negated when the sign is set. -/
structure Dyadic where
  negative : Bool
  mantissa : Nat
  exponent : Int
deriving DecidableEq, Repr

/-- What the bits of a double say. -/
inductive Shape where
  | notANumber
  | infinite (negative : Bool)
  | finite (value : Dyadic)
deriving DecidableEq, Repr

/-- Reads sign, exponent and fraction off 64 bits. -/
def Shape.ofBits (bits : Nat) : Shape :=
  let negative := bits / twoTo 63 % 2 == 1
  let biased : Nat := bits / twoTo 52 % twoTo 11
  let fraction : Nat := bits % twoTo 52
  if biased == 2047 then
    if fraction == 0 then .infinite negative else .notANumber
  else if biased == 0 then .finite ⟨negative, fraction, -1074⟩
  else .finite ⟨negative, twoTo 52 + fraction, (biased : Int) - 1075⟩

/-- The shape of a double. -/
def shape (x : Float) : Shape :=
  Shape.ofBits x.toBits.toNat

/-- Whether a double is neither infinite nor the not-a-number. -/
def isFinite (x : Float) : Bool :=
  match shape x with
  | .finite _ => true
  | _ => false

/-- Whether the sign bit is set, which also tells the two zeros apart. -/
def isNegative (x : Float) : Bool :=
  match shape x with
  | .notANumber => false
  | .infinite negative => negative
  | .finite value => value.negative

/-- A fraction with a power of two below the line: `numerator / 2 ^ places`. -/
structure Scaled where
  numerator : Int
  places : Nat
deriving DecidableEq, Repr

/-- A dyadic number as one fraction. -/
def Dyadic.scaled (value : Dyadic) : Scaled :=
  let signed : Int := if value.negative then -value.mantissa else value.mantissa
  if 0 ≤ value.exponent then ⟨signed * twoTo value.exponent.toNat, 0⟩
  else ⟨signed, (-value.exponent).toNat⟩

/-- The order of two fractions, by cross multiplication. -/
def Scaled.order (a b : Scaled) : Ordering :=
  compare (a.numerator * twoTo b.places) (b.numerator * twoTo a.places)

/-- The largest whole number not above the fraction. -/
def Scaled.floor (a : Scaled) : Int :=
  a.numerator.fdiv (twoTo a.places)

/-- The smallest whole number not below the fraction. -/
def Scaled.ceil (a : Scaled) : Int :=
  -((-a.numerator).fdiv (twoTo a.places))

/-- The whole part, cut toward zero. -/
def Scaled.truncate (a : Scaled) : Int :=
  a.numerator.tdiv (twoTo a.places)

/-- Whether the fraction is a whole number. -/
def Scaled.isWhole (a : Scaled) : Bool :=
  a.numerator % twoTo a.places == 0

theorem Scaled.order_self (a : Scaled) : a.order a = .eq := by
  simp [Scaled.order]

end Number
end Triage
