import Triage.Number.Quantity

namespace Triage
namespace Number

/-!
Powers.

Whole numbers to a whole power are exact, and so are powers of two to a whole power, which are
what delays grow by.  Any other power is as near as the standard function for it comes.  A
result beyond every double is a fault of its own, never an infinite double.
-/

/-- Takes factors of two out of a mantissa, as many as a bound allows. -/
def reduce : Nat -> Nat -> Int -> Nat × Int
  | 0, mantissa, exponent => (mantissa, exponent)
  | bound + 1, mantissa, exponent =>
      if mantissa % 2 == 0 && mantissa != 0 then reduce bound (mantissa / 2) (exponent + 1)
      else (mantissa, exponent)

/-- The exponent of a magnitude that is a power of two. -/
def Dyadic.log? (value : Dyadic) : Option Int :=
  let (mantissa, exponent) := reduce 64 value.mantissa value.exponent
  if mantissa == 1 then some exponent else none

end Number

/-- Why a power is no double. -/
inductive PowerFault where
  | tooLarge
  | outOfRange
  | inverseOfZero
  | notReal
deriving DecidableEq, Repr

namespace Quantity

/-- The whole number that a double is, if it is one. -/
def wholeOf? (x : Float) : Option Int :=
  match Number.shape x with
  | .finite value => if value.scaled.isWhole then some value.scaled.floor else none
  | _ => none

/-- A power of doubles, which has to be finite. -/
def finitePower (x y : Float) : Except PowerFault Float :=
  let power := Float.pow x y
  if Number.isFinite power then .ok power else .error .outOfRange

/-- A finite double that is not zero to a whole power. -/
def wholePower (value : Number.Dyadic) (x y : Float) (n : Int) : Except PowerFault Float :=
  match value.log? with
  | none => finitePower x y
  | some exponent =>
      match Number.powerOfTwo? (exponent * n) with
      | none => .error .outOfRange
      | some power => .ok (if value.negative && n % 2 != 0 then -power else power)

/-- A double to a power. -/
def powerReal (x y : Float) : Except PowerFault Float :=
  match Number.shape x, Number.shape y with
  | .finite base, .finite exponent =>
      if base.mantissa == 0 && exponent.negative && exponent.mantissa != 0 then
        .error .inverseOfZero
      else if base.mantissa == 0 then .ok (Float.pow x y)
      else match wholeOf? y with
        | some n => wholePower base x y n
        | none => if base.negative then .error .notReal else finitePower x y
  | _, _ => .ok (Float.pow x y)

/-- The exponent of a double that is a power of two. -/
def twoExponent? (x : Float) : Option Int :=
  match Number.shape x with
  | .finite value => if value.negative then none else value.log?
  | _ => none

/-- A power of two to a whole power that some double comes near. -/
def twoPower (exponent n : Int) : Except PowerFault Quantity :=
  if (Number.ofInt? n).isNone then .error .tooLarge
  else match Number.powerOfTwo? (exponent * n) with
    | some power => .ok (.real power)
    | none => .error .outOfRange

/-- A power: of whole numbers exactly, of anything else as a double. -/
def power (base exponent : Quantity) : Except PowerFault Quantity :=
  let asReals : Except PowerFault Quantity :=
    match base.toFloat?, exponent.toFloat? with
    | some x, some y => (powerReal x y).map .real
    | _, _ => .error .tooLarge
  match base, exponent with
  | .whole m, .whole n => if 0 ≤ n then .ok (.whole (Int.pow m n.toNat)) else asReals
  | .real x, .whole n =>
      match twoExponent? x with
      | some k => twoPower k n
      | none => asReals
  | _, _ => asReals

end Quantity
end Triage
