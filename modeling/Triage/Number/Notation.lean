import Triage.Number.Shortest

namespace Triage
namespace Number

/-!
The written forms of a double.

All forms share their digits, which are the shortest that read back, and the span of
magnitudes written without an exponent.  They differ in the spelling of the three values
that are not decimal, and in whether digits before an exponent always show a point.
-/

/-- The decisions of one written form. -/
structure Form where
  /-- The not-a-number. -/
  notANumber : String
  /-- Positive infinity; the negative one has a minus in front. -/
  infinity : String
  /-- Whether a lone digit before an exponent is followed by `.0`. -/
  pointBeforeExponent : Bool

/-- The plain form: `1.0`, `1e+16`, `nan`, `inf`. -/
def Form.plain : Form := ⟨"nan", "inf", false⟩

/-- The form inside JSON text. -/
def Form.json : Form := ⟨"NaN", "Infinity", false⟩

/-- The form inside YAML text, where an exponent needs a point to read back as a number. -/
def Form.yaml : Form := ⟨".nan", ".inf", true⟩

/-- An exponent with its sign and at least two digits. -/
def exponentText (exponent : Int) : String :=
  let digits := Nat.toDigits 10 exponent.natAbs
  let padded := if digits.length < 2 then '0' :: digits else digits
  String.ofList ((if exponent < 0 then '-' else '+') :: padded)

/--
Digits whose decimal point stands after the first `point` of them.  From four places below
the first digit up to sixteen digits before the point, the number is written out.
-/
def Form.place (form : Form) (digits : List Char) (point : Int) : String :=
  if -4 < point && point ≤ 16 then
    if point ≤ 0 then
      "0." ++ String.ofList (List.replicate (-point).toNat '0' ++ digits)
    else
      let whole := digits.take point.toNat
      let rest := digits.drop point.toNat
      let filled := whole ++ List.replicate (point.toNat - whole.length) '0'
      String.ofList (filled ++ '.' :: (if rest.isEmpty then ['0'] else rest))
  else
    let mantissa := match digits with
      | [] => ""
      | [d] => if form.pointBeforeExponent then String.ofList [d, '.', '0'] else d.toString
      | d :: rest => String.ofList (d :: '.' :: rest)
    mantissa ++ "e" ++ exponentText (point - 1)

/-- A finite magnitude. -/
def Form.magnitude (form : Form) (value : Dyadic) : String :=
  if value.mantissa == 0 then "0.0"
  else
    let decimal := shortest value.mantissa value.exponent
    let digits := decimal.text
    form.place digits (digits.length + decimal.exponent)

/-- Writes a double. -/
def Form.write (form : Form) (x : Float) : String :=
  let signed (negative : Bool) (text : String) := if negative then "-" ++ text else text
  match shape x with
  | .notANumber => form.notANumber
  | .infinite negative => signed negative form.infinity
  | .finite value => signed value.negative (form.magnitude value)

end Number
end Triage
