import Triage.Number.Rounding
import Triage.Text.Blank
import Triage.Text.Digit
import Triage.Text.Quoted

namespace Triage
namespace Number

/-!
Numbers written as text.

A whole number is an optional sign and digits of any script, with single underscores allowed
between digits.  A double may have a fraction and an exponent, or be one of the words for
infinity and the not-a-number.  White space around either is ignored.
-/

/-- Why a text is not a whole number. -/
inductive IntFault where
  | malformed (text : String)
  | tooLong (digits : Nat)
deriving DecidableEq, Repr

/-- The most digits a whole number may be written with. -/
def maxIntDigits : Nat := 4300

/-- The wording of a fault. -/
def IntFault.message : IntFault -> String
  | .malformed text =>
      "invalid literal for int() with base 10: " ++
        String.ofList ((Text.quoted text).toList.take 200)
  | .tooLong digits =>
      "Exceeds the limit (4300 digits) for integer string conversion: value has " ++
        toString digits ++ " digits; use sys.set_int_max_str_digits() to increase the limit"

/-- A sign in front of a number, and the rest. -/
def splitSign : List Char -> Bool × List Char
  | '-' :: rest => (true, rest)
  | '+' :: rest => (false, rest)
  | cs => (false, cs)

/-- Turns the digits of every script into plain ones and leaves the rest. -/
def plainDigits (cs : List Char) : List Char :=
  cs.map fun c =>
    match Text.digitValue? c with
    | some d => Char.ofNat (48 + d)
    | none => c

/--
Drops underscores that stand between two digits; none when an underscore stands elsewhere.
The flag says whether the character before is a digit.
-/
def dropUnderscores : Bool -> List Char -> Option (List Char)
  | _, [] => some []
  | afterDigit, '_' :: rest =>
      match rest with
      | next :: _ =>
          if afterDigit && (Text.plainDigit? next).isSome then dropUnderscores false rest
          else none
      | [] => none
  | _, c :: rest => (dropUnderscores (Text.plainDigit? c).isSome rest).map (c :: ·)

/-- The value of plain digits. -/
def digitsValue (cs : List Char) : Nat :=
  Text.ofDigits (cs.filterMap Text.plainDigit?)

/-- Whether all characters are plain digits and there is one. -/
def isDigits (cs : List Char) : Bool :=
  !cs.isEmpty && cs.all fun c => (Text.plainDigit? c).isSome

/-- Reads a whole number. -/
def readInt (text : String) : Except IntFault Int :=
  let cs := plainDigits (Text.trimOf Text.isSpace text.toList)
  let (negative, body) := splitSign cs
  match dropUnderscores false body with
  | some digits =>
      if !isDigits digits then .error (.malformed text)
      else if digits.length > maxIntDigits then .error (.tooLong digits.length)
      else .ok (if negative then -(digitsValue digits : Int) else digitsValue digits)
  | none => .error (.malformed text)

/-- The lower-case letter of a plain upper-case one. -/
def lowerPlain (c : Char) : Char :=
  if 'A' ≤ c && c ≤ 'Z' then Char.ofNat (c.toNat + 32) else c

/-- An exponent part: none when the text holds something else after the number. -/
def readExponent : List Char -> Option Int
  | [] => some 0
  | e :: rest =>
      let (negative, digits) := splitSign rest
      if lowerPlain e == 'e' && isDigits digits then
        let value : Int := digitsValue digits
        some (if negative then -value else value)
      else none

/-- An unsigned decimal with optional fraction and exponent. -/
def readDecimal (cs : List Char) : Option Float :=
  let isPlain := fun c : Char => (Text.plainDigit? c).isSome
  let whole := cs.takeWhile isPlain
  let afterWhole := cs.dropWhile isPlain
  let (fraction, rest) := match afterWhole with
    | '.' :: tail => (tail.takeWhile isPlain, tail.dropWhile isPlain)
    | other => ([], other)
  if whole.isEmpty && fraction.isEmpty then none
  else (readExponent rest).map fun exponent =>
    ofDecimal (digitsValue (whole ++ fraction)) (exponent - fraction.length)

/-- The words for values that are not decimal. -/
def readWord (cs : List Char) : Option Float :=
  let word := String.ofList (cs.map lowerPlain)
  if word == "inf" || word == "infinity" then some (1.0 / 0.0)
  else if word == "nan" then some (0.0 / 0.0)
  else none

/-- Reads a double. -/
def readFloat? (text : String) : Option Float :=
  let cs := plainDigits (Text.trimOf Text.isSpace text.toList)
  let (negative, body) := splitSign cs
  match (dropUnderscores false body).bind fun digits => (readDecimal digits).orElse fun _ =>
      readWord digits with
  | some x => some (if negative then -x else x)
  | none => none

/-- The wording for a text that is no number. -/
def floatFaultMessage (text : String) : String :=
  "could not convert string to float: " ++ Text.quoted text

end Number
end Triage
