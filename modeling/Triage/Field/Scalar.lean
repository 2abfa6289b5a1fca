import Triage.Field.Checked
import Triage.Number.Reading

namespace Triage
namespace Field

/-!
Checks of single values: texts, whole numbers, truth values and named choices.

A check takes the forms that plainly mean the wanted value and refuses the rest; it never
guesses.
-/

/-- The text of a text, or of bytes that encode one; none when bytes do not. -/
def textOf? : Value -> Option (Option String)
  | .text s => some (some s)
  | .bytes bs => some (String.fromUTF8? ⟨bs.toArray⟩)
  | _ => none

def text (value : Value) : Checked String :=
  match textOf? value with
  | some (some s) => .good s
  | some none => .fault .undecodableText value
  | none => .fault .text value

/-- Drops zeros and underscores in front of a number, keeping one zero before a point. -/
def dropLeadingZeros (cs : List Char) : Option (List Char) :=
  match cs with
  | '-' :: _ => some cs
  | '0' :: rest =>
      match rest.dropWhile fun c => c == '0' || c == '_' with
      | [] => some (cs.drop (cs.length - 1))
      | '.' :: tail => some ('0' :: '.' :: tail)
      | c :: tail => if '1' ≤ c && c ≤ '9' then some (c :: tail) else none
  | c :: _ => if '1' ≤ c && c ≤ '9' then some cs else none
  | [] => none

/-- Drops a point that only zeros follow. -/
def dropWholePoint (cs : List Char) : List Char :=
  match cs.dropWhile fun c => c != '.' with
  | '.' :: rest => if rest.all (· == '0') then cs.takeWhile (· != '.') else cs
  | _ => cs

/-- A whole number written as text: zeros in front, single underscores and `.0` are let pass. -/
def wholeOfText? (s : String) : Option Int := do
  let cs := Text.trimOf Text.isSpace s.toList
  let cs := match cs with
    | '+' :: rest => if rest.head? == some '-' then cs else rest
    | _ => cs
  let cs := dropWholePoint (<- dropLeadingZeros cs)
  let (negative, digits) := match cs with
    | '-' :: rest => (true, rest)
    | rest => (false, rest)
  let digits <- Number.dropUnderscores false digits
  if !Number.isDigits digits || (negative && digits.length > 1 && digits.head? == some '0') then
    none
  else
    let value : Int := Number.digitsValue digits
    some (if negative then -value else value)

/-- A double without fraction, as a whole number. -/
def wholeOfFloat (x : Float) (found : Value) : Checked Int :=
  match Number.shape x with
  | .finite value =>
      let scaled := value.scaled
      if !scaled.isWhole then .fault .wholeFraction found
      else if scaled.floor.natAbs ≥ Number.twoTo 63 then .fault .wholeSize found
      else .good scaled.floor
  | _ => .fault .notFinite found

/-- A whole number. -/
def whole (value : Value) : Checked Int :=
  match value with
  | .bool b => .good (if b then 1 else 0)
  | .number (.whole n) => .good n
  | .number (.real x) => wholeOfFloat x value
  | other =>
      match textOf? other with
      | some (some s) =>
          if s.utf8ByteSize > 4300 then .fault .wholeSize value
          else match wholeOfText? s with
            | some n => .good n
            | none => .fault .wholeText value
      | some none => .fault .wholeText value
      | none => .fault .whole value

/-- The words for the two truth values; capitals do not matter. -/
def flagOfText? (s : String) : Option Bool :=
  let word := String.ofList (s.toList.map Number.lowerPlain)
  if ["0", "off", "f", "false", "n", "no"].contains word then some false
  else if ["1", "on", "t", "true", "y", "yes"].contains word then some true
  else none

/-- The truth value of a whole number. -/
def flagOfWhole (n : Int) (found : Value) : Checked Bool :=
  if n == 0 then .good false else if n == 1 then .good true else .fault .flagText found

/-- A truth value. -/
def flag (value : Value) : Checked Bool :=
  match value with
  | .bool b => .good b
  | .number (.whole n) =>
      if n.natAbs < Number.twoTo 63 then flagOfWhole n value else .fault .flag value
  | .number (.real x) =>
      match wholeOfFloat x value with
      | .good n => flagOfWhole n value
      | _ => .fault .flag value
  | other =>
      match textOf? other with
      | some (some s) =>
          match flagOfText? s with
          | some b => .good b
          | none => .fault .flagText value
      | some none => .fault .flagText value
      | none => .fault .flag value

/-- One of a list of named choices. -/
def choice {A : Type} (choices : List A) (name : A -> String) (value : Value) : Checked A :=
  match choices.find? fun candidate => value.asText? == some (name candidate) with
  | some found => .good found
  | none => .fault (.choice (choices.map name)) value

end Field
end Triage
