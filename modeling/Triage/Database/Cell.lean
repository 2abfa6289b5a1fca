import Triage.Failure
import Triage.Number.Reading

namespace Triage
namespace Database

/-!
Cells of tables.

A column prefers one kind of cell.  A text column turns numbers into texts, and a whole-number
column turns texts that read as numbers, and doubles without a fraction, into whole numbers of
64 bits.  What cannot be turned stays what it is.
-/

inductive Cell where
  | null
  | whole (n : Int)
  | real (x : Float)
  | text (s : String)
deriving Inhabited

namespace Cell

/-- Whether a whole number fits into 64 bits. -/
def fits (n : Int) : Bool := -(Number.twoTo 63 : Int) ≤ n && n < Number.twoTo 63

/-- A text or nothing. -/
def ofText? : Option String -> Cell
  | some s => .text s
  | none => .null

def toValue : Cell -> Value
  | .null => .null
  | .whole n => .int n
  | .real x => .float x
  | .text s => .text s

/-- Whether a cell is empty. -/
def isNull : Cell -> Bool
  | .null => true
  | _ => false

/-- Whether a cell holds a text. -/
def isText (s : String) : Cell -> Bool
  | .text t => t == s
  | _ => false

/-- The order of kinds: nothing, numbers, texts. -/
def rank : Cell -> Nat
  | .null => 0
  | .whole _ => 1
  | .real _ => 1
  | .text _ => 2

/-- The number of a cell that holds one. -/
def number? : Cell -> Option Quantity
  | .whole n => some (.whole n)
  | .real x => some (.real x)
  | _ => none

/-- The order of cells: texts by their characters, numbers by size. -/
def order (a b : Cell) : Ordering :=
  match a, b with
  | .text s, .text t => compare s t
  | _, _ =>
      match a.number?, b.number? with
      | some p, some q => (p.order? q).getD .eq
      | _, _ => compare a.rank b.rank

/-! ## Numbers as texts -/

/-- How many digits of a double a text column keeps. -/
def keptDigits : Nat := 15

/-- A positive double in units of `10 ^ (point - keptDigits)`, as a quotient. -/
def inUnits (value : Number.Dyadic) (point : Int) : Nat × Nat :=
  let up := (keptDigits : Int) - point
  (value.mantissa * Number.twoTo value.exponent.toNat * Number.tenTo up.toNat,
    Number.twoTo (-value.exponent).toNat * Number.tenTo (-up).toNat)

/-- The place of the point behind the first digit, found from a place that may be too high. -/
def placeOfPoint (value : Number.Dyadic) : Nat -> Int -> Int
  | 0, point => point
  | tries + 1, point =>
      let (numerator, denominator) := inUnits value point
      if numerator < Number.tenTo (keptDigits - 1) * denominator then placeOfPoint value tries (point - 1)
      else point

/-- The leading digits of a positive double, and the place of its point counted from them. -/
def leading (value : Number.Dyadic) : Nat × Int :=
  let point := placeOfPoint value 4 (Number.startExponent value.mantissa value.exponent)
  let (numerator, denominator) := inUnits value point
  let digits := Number.roundDiv numerator denominator
  if digits == Number.tenTo keptDigits then (Number.tenTo (keptDigits - 1), point + 1) else (digits, point)

/-- A positive double as a text: at most fifteen digits, and always a point. -/
def magnitudeText (value : Number.Dyadic) : String :=
  let (digits, point) := leading value
  let decimal := (Number.Decimal.mk digits 0).trimZeros keptDigits
  let shown := decimal.text
  if -4 < point && point ≤ keptDigits then Number.Form.plain.place shown point
  else
    let rest := shown.drop 1
    String.ofList (shown.take 1 ++ '.' :: (if rest.isEmpty then ['0'] else rest)) ++ "e" ++
      Number.exponentText (point - 1)

/-- A double as a text. -/
def realText (x : Float) : String :=
  match Number.shape x with
  | .notANumber => ""
  | .infinite negative => if negative then "-Inf" else "Inf"
  | .finite value =>
      if value.mantissa == 0 then "0.0"
      else (if value.negative then "-" else "") ++ magnitudeText value

def inTextColumn : Cell -> Cell
  | .whole n => .text (toString n)
  | .real x => .text (realText x)
  | other => other

/-! ## Texts as numbers -/

/-- The blanks that may surround a number. -/
def isSpace (c : Char) : Bool := c == ' ' || ('\t' ≤ c && c ≤ '\r')

/-- A double of a whole-number column: a whole number where nothing is lost. -/
def ofReal (x : Float) : Cell :=
  match Number.shape x with
  | .finite value =>
      let scaled := value.scaled
      if scaled.isWhole && -(Number.twoTo 63 : Int) < scaled.floor && scaled.floor < Number.twoTo 63 - 1 then
        .whole scaled.floor
      else .real x
  | _ => .real x

/-- The number that a text of a whole-number column reads as. -/
def readNumber? (s : String) : Option Cell :=
  let (negative, body) := Number.splitSign (Text.trimOf isSpace s.toList)
  if Number.isDigits body then
    let n : Int := Number.digitsValue body
    let n := if negative then -n else n
    if fits n then some (.whole n)
    else (Number.readDecimal body).map fun x => ofReal (if negative then -x else x)
  else (Number.readDecimal body).map fun x => ofReal (if negative then -x else x)

/-- A cell of a whole-number column. -/
def inWholeColumn : Cell -> Cell
  | .text s => (readNumber? s).getD (.text s)
  | .real x => ofReal x
  | other => other

end Cell
end Database
end Triage
