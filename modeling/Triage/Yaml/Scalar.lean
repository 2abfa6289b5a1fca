import Triage.Number.Reading
import Triage.Time.Stamp
import Triage.Yaml.Node

namespace Triage
namespace Yaml
namespace Scalar

/-!
Values of single texts.

A text has the value that its kind gives it.  Untagged texts always have one, stamps apart,
which may name a day that is none; a tag may ask for a kind that the text does not fit.
-/

/-- A value, a fault of the text, or a failure of another kind. -/
abbrev Outcome := Except Fault Value

/-- A failure that is not the text's. -/
def failed {A : Type} (failure : Failure) : Except Fault A := .error (.failed failure)

/-- Drops underscores. -/
def withoutBars (text : String) : List Char := text.toList.filter (· != '_')

/-- A sign and what follows it; an empty text has neither. -/
def signed (cs : List Char) : Except Fault (Bool × List Char) :=
  match cs with
  | [] => failed (.plain .badIndex "string index out of range")
  | _ => .ok (Number.splitSign cs)

/-- The wording for a text that is no number in a base. -/
def wrongBase (base : Nat) (cs : List Char) : Failure :=
  .badValue ("invalid literal for int() with base " ++ toString base ++ ": " ++
    Text.quoted (String.ofList cs))

/-- The value of digits in a base; the base may be announced once more. -/
def digitsIn (base : Nat) (letter : Char) (cs : List Char) : Except Fault Int :=
  let (negative, body) := Number.splitSign (Text.trimOf Text.isSpace cs)
  let body := match body with
    | '0' :: l :: rest => if l.toLower == letter && !rest.isEmpty then rest else body
    | _ => body
  let digits := body.filterMap fun c =>
    (Token.hexValue? c).bind fun d => if d < base then some d else none
  if body.isEmpty || digits.length != body.length then failed (wrongBase base cs)
  else
    let size : Nat := digits.foldl (fun value d => base * value + d) 0
    .ok (if negative then -size else size)

/-- The value of plain digits. -/
def decimal (cs : List Char) : Except Fault Int :=
  match Number.readInt (String.ofList cs) with
  | .ok n => .ok n
  | .error fault => failed (.badValue fault.message)

/-- A whole number: binary, octal, decimal, hexadecimal, or in sixtieths. -/
def int (text : String) : Except Fault Int := do
  let (negative, body) <- signed (withoutBars text)
  let size <- match body with
    | [] => failed (.plain .badIndex "string index out of range")
    | ['0'] => pure 0
    | '0' :: 'b' :: rest => digitsIn 2 'b' rest
    | '0' :: 'x' :: rest => digitsIn 16 'x' rest
    | '0' :: _ => digitsIn 8 'o' body
    | _ =>
        if body.contains ':' then
          (Plain.splitAt ':' body).foldlM
            (fun value part => do pure (60 * value + (<- decimal part))) 0
        else decimal body
  pure (if negative then -size else size)

/-- The double of decimal digits. -/
def double (cs : List Char) : Except Fault Float :=
  let text := String.ofList cs
  match Number.readFloat? text with
  | some x => .ok x
  | none => failed (.badValue (Number.floatFaultMessage text))

/-- Sums parts that weigh sixty times more from each to the one before it, the last first. -/
def sixtieths : Float -> List Float -> Float -> Float
  | _, [], sum => sum
  | weight, part :: parts, sum => sixtieths (weight * 60.0) parts (sum + part * weight)

/-- A number with a point. -/
def float (text : String) : Except Fault Float := do
  let (negative, body) <- signed ((withoutBars text).map Number.lowerPlain)
  let size <-
    if body == ".inf".toList then pure (1.0 / 0.0)
    else if body == ".nan".toList then pure (0.0 / 0.0)
    else if body.contains ':' then do
      let parts <- (Plain.splitAt ':' body).mapM double
      pure (sixtieths 1.0 parts.reverse 0.0)
    else double body
  pure (if negative then -size else size)

/-- A truth value. -/
def bool (text : String) : Outcome :=
  let word := text.toLower
  if Plain.trueWords.contains word then .ok (.bool true)
  else if Plain.falseWords.contains word then .ok (.bool false)
  else failed (.missingKey word)

/-- The value of a character of coded bytes. -/
def sixBits? (c : Char) : Option Nat :=
  if 'A' ≤ c && c ≤ 'Z' then some (c.toNat - 65)
  else if 'a' ≤ c && c ≤ 'z' then some (c.toNat - 71)
  else if '0' ≤ c && c ≤ '9' then some (c.toNat + 4)
  else if c == '+' then some 62
  else if c == '/' then some 63
  else none

/--
Decodes bytes, four characters to three of them.  Other characters are passed over, and
filling ends the text once a group is complete.
-/
def decodeBytes : List Char -> Nat -> Nat -> Nat -> List UInt8 -> Option (List UInt8)
  | [], place, _, _, done => if place == 0 then some done.reverse else none
  | c :: rest, place, held, filling, done =>
      if c == '=' then
        if 2 ≤ place && 4 ≤ place + (filling + 1) then some done.reverse
        else decodeBytes rest place held (if 2 ≤ place then filling + 1 else filling) done
      else match sixBits? c with
        | none => decodeBytes rest place held filling done
        | some bits =>
            if place == 0 then decodeBytes rest 1 bits 0 done
            else if place == 1 then
              decodeBytes rest 2 (bits % 16) 0 ((held * 4 + bits / 16).toUInt8 :: done)
            else if place == 2 then
              decodeBytes rest 3 (bits % 4) 0 ((held * 16 + bits / 4).toUInt8 :: done)
            else decodeBytes rest 0 0 0 ((held * 64 + bits).toUInt8 :: done)

/-- Bytes written with sixty-four characters. -/
def binary (text : String) : Outcome :=
  if text.toList.all fun c => c.toNat < 128 then
    match decodeBytes text.toList 0 0 0 [] with
    | some bytes => .ok (.bytes bytes)
    | none => .error .malformed
  else .error .malformed

/-- Microseconds of a written fraction of a second. -/
def microseconds (fraction : List Char) : Nat :=
  let digits := fraction.take 6
  Plain.count digits * Number.tenTo (6 - digits.length)

/-- A day of the calendar, or the failure that its numbers name none. -/
def day (parts : Plain.StampParts) : Except Fault Time.Date :=
  match Time.Date.make parts.year parts.month parts.day with
  | .ok date => .ok date
  | .error fault => failed (.badValue fault.message)

/-- A day, or a day with a time. -/
def stamp (text : String) : Outcome :=
  match Plain.stampParts? text.toList with
  | none => failed (.plain .missingMember "'NoneType' object has no attribute 'groupdict'")
  | some parts =>
      match parts.time with
      | none => do pure (.date (<- day parts))
      | some (hour, minute, second) => do
          let offset : Option Int := parts.zone.map fun minutes => minutes * (60 * Time.second : Nat)
          if (offset.map fun ahead => decide (Time.day ≤ ahead.natAbs)) == some true then
            failed (.badValue (Time.offsetMessage (offset.getD 0)))
          let date <- day parts
          let clock (name : String) (last : Nat) : Fault :=
            .failed (.badValue (name ++ " must be in 0.." ++ toString last))
          if hour > 23 then throw (clock "hour" 23)
          if minute > 59 then throw (clock "minute" 59)
          if second > 59 then throw (clock "second" 59)
          let time := ((60 * hour + minute) * 60 + second) * Time.second +
            microseconds parts.fraction
          match Instant.at? date time with
          | some wall => pure (.stamp ⟨wall, offset⟩)
          | none => throw .malformed

/-- The value of a text of a kind. -/
def value (tag : Tag) (text : String) : Outcome :=
  match tag with
  | .null => .ok .null
  | .bool => bool text
  | .int => (int text).map .int
  | .float => (float text).map .float
  | .binary => binary text
  | .stamp => stamp text
  | .text => .ok (.text text)
  | _ => .error .malformed

end Scalar
end Yaml
end Triage
