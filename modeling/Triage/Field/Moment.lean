import Triage.Field.Scalar

namespace Triage
namespace Field

/-!
Checks of points in time.

A moment may be a stamp, a day, a written stamp or day, or a count since the start of 1970.
Counts beyond twenty billion are milliseconds, smaller ones seconds.  A written day begins
with four digits, a hyphen, two digits, a hyphen and two digits; nothing shorter will do.
-/

/-- Complaints about a written day or a count. -/
inductive MomentFault where
  | tooShort
  | extra
  | yearCharacter
  | monthCharacter
  | dayCharacter
  | dateSeparator
  | monthRange
  | dayRange
  | tooEarly
  | tooLate
  | notANumber
deriving DecidableEq, Repr

/-- The wording of a complaint. -/
def MomentFault.message : MomentFault -> String
  | .tooShort => "input is too short"
  | .extra => "unexpected extra characters at the end of the input"
  | .yearCharacter => "invalid character in year"
  | .monthCharacter => "invalid character in month"
  | .dayCharacter => "invalid character in day"
  | .dateSeparator => "invalid date separator, expected \x60-\x60"
  | .monthRange => "month value is outside expected range of 1-12"
  | .dayRange => "day value is outside expected range"
  | .tooEarly => "dates before 0000 are not supported as unix timestamps"
  | .tooLate => "dates after 9999 are not supported as unix timestamps"
  | .notANumber => "NaN values not permitted"

/-- The characters of a text, one for each byte of its encoding. -/
def byteChars (s : String) : List Char :=
  s.toList.flatMap fun c => (String.utf8EncodeChar c).map fun b => Char.ofNat b.toNat

/-- The value of two digits at a position. -/
def twoDigits? (cs : List Char) (position : Nat) : Option Nat := do
  let tens <- (cs[position]?).bind Text.plainDigit?
  let ones <- (cs[position + 1]?).bind Text.plainDigit?
  pure (10 * tens + ones)

/-- Reads the day at the front; the year may be zero, which no calendar year is. -/
def dayInFront (cs : List Char) : Except MomentFault Time.Date :=
  if cs.length < 10 then .error .tooShort
  else match twoDigits? cs 0, twoDigits? cs 2 with
    | some century, some years =>
        if cs[4]? != some '-' then .error .dateSeparator
        else match twoDigits? cs 5 with
          | none => .error .monthCharacter
          | some month =>
              if cs[7]? != some '-' then .error .dateSeparator
              else match twoDigits? cs 8 with
                | none => .error .dayCharacter
                | some day =>
                    let year := 100 * century + years
                    if month < 1 || 12 < month then .error .monthRange
                    else if day < 1 || Time.daysInMonth year month < day then .error .dayRange
                    else .ok ⟨year, month, day⟩
    | _, _ => .error .yearCharacter

/-- The six digits of a fraction, further ones cut off, and the rest; none without digits. -/
def fractionOf? (cs : List Char) : Option (Nat × List Char) :=
  let digits := (cs.takeWhile fun c => (Text.plainDigit? c).isSome)
  let kept := digits.take 6
  if digits.isEmpty then none
  else some (Number.digitsValue kept * Number.tenTo (6 - kept.length), cs.drop digits.length)

/-- Reads a time of day at the front, in microseconds. -/
def timeInFront (cs : List Char) : Option (Nat × List Char) := do
  let hours <- twoDigits? cs 0
  let minutes <- if cs[2]? == some ':' then twoDigits? cs 3 else none
  let base := hours * Time.hour + minutes * 60 * Time.second
  let rest := cs.drop 5
  if hours > 23 || minutes > 59 then none
  else if rest.head? == some ':' then
    let seconds <- twoDigits? rest 1
    let total := base + seconds * Time.second
    let after := rest.drop 3
    if seconds > 59 then none
    else if after.head? == some '.' || after.head? == some ',' then
      let (fraction, after) <- fractionOf? (after.drop 1)
      pure (total + fraction, after)
    else pure (total, after)
  else pure (base, rest)

/-- Reads the distance from UTC that ends a written stamp. -/
def offsetAtEnd (cs : List Char) : Option (Option Int) :=
  let minus := [Char.ofNat 0xE2, Char.ofNat 0x88, Char.ofNat 0x92]
  let signed (negative : Bool) (rest : List Char) : Option (Option Int) := do
    let hours <- twoDigits? rest 0
    let tail := rest.drop 2
    let tail := if tail.head? == some ':' then tail.drop 1 else tail
    let minutes <- twoDigits? tail 0
    let size : Int := hours * Time.hour + minutes * 60 * Time.second
    if tail.length != 2 || minutes > 59 || hours > 23 then none
    else some (some (if negative then -size else size))
  match cs with
  | [] => some none
  | ['Z'] => some (some 0)
  | ['z'] => some (some 0)
  | '+' :: rest => signed false rest
  | '-' :: rest => signed true rest
  | other => if minus.isPrefixOf other then signed true (other.drop 3) else none

/-- A day with a time, as a stamp; the year zero has none. -/
def stampOf (date : Time.Date) (timeOfDay : Nat) (offset : Option Int) : Checked Stamp :=
  if date.year == 0 then .ended (.badValue "year 0 is out of range")
  else match Instant.at? date timeOfDay with
    | some wall => .good ⟨wall, offset⟩
    | none => .ended (.badValue "year is out of range")

/-- The smallest and the largest second since 1970 that a count may name. -/
def countBounds : Int × Int := (-62167219200, 253402300799)

/-- The instant that lies some seconds and microseconds after the start of 1970. -/
def ofCount (count : Int) (extra : Nat) : Except MomentFault Int :=
  if count.natAbs ≥ Number.twoTo 63 then .error (if count < 0 then .tooEarly else .tooLate)
  else
    let inMillis := count.natAbs > 20000000000
    let micros : Int := (if inMillis then count * 1000 else count * Time.second) + extra
    let seconds := micros.fdiv Time.second
    if seconds < countBounds.1 then .error .tooEarly
    else if countBounds.2 < seconds then .error .tooLate
    else .ok (micros + Instant.epochTicks)

def stampOfCount (count : Int) (extra : Nat) : Except MomentFault (Checked Stamp) := do
  let ticks <- ofCount count extra
  match Instant.ofTicks? ticks with
  | some wall => pure (.good ⟨wall, some 0⟩)
  | none => pure (.ended (.badValue "year 0 is out of range"))

/-- The whole part of a double and its microseconds, the latter without the sign. -/
def splitSeconds (x : Float) : Int × Nat :=
  match Number.shape x with
  | .finite value =>
      let scaled := value.scaled
      let part := scaled.numerator.natAbs % Number.twoTo scaled.places
      (scaled.floor, Number.roundDiv (part * Time.second) (Number.twoTo scaled.places))
  | .infinite true => (-(Number.twoTo 63), 0)
  | _ => (Number.twoTo 63, 0)

/-- The stamp of a count that may have a fraction. -/
def stampOfFloat (x : Float) : Except MomentFault (Checked Stamp) :=
  let (seconds, micros) := splitSeconds x
  if x.isNaN then .error .notANumber else stampOfCount seconds micros

/-- A written count: a sign, digits, and perhaps a fraction. -/
def writtenCount? (cs : List Char) : Option Quantity :=
  let (negative, body) := Number.splitSign cs
  let whole := body.takeWhile fun c => (Text.plainDigit? c).isSome
  let rest := body.drop whole.length
  let sign (x : Float) := if negative then -x else x
  match rest with
  | [] =>
      let value : Int := Number.digitsValue whole
      if whole.isEmpty || value.natAbs ≥ Number.twoTo 63 then none
      else some (.whole (if negative then -value else value))
  | '.' :: fraction =>
      if fraction.all fun c => (Text.plainDigit? c).isSome then
        some (.real (sign (Number.ofDecimal (Number.digitsValue (whole ++ fraction))
          (-(fraction.length : Int)))))
      else none
  | _ => none

/-- A written stamp with day and time. -/
def writtenStamp? (cs : List Char) : Option (Checked Stamp) := do
  let date <- (dayInFront cs).toOption
  let separator <- cs[10]?
  let (time, rest) <-
    if ['T', 't', ' ', '_'].contains separator then timeInFront (cs.drop 11) else none
  let offset <- offsetAtEnd rest
  pure (stampOf date time offset)

def stampOfWritten (count : Quantity) : Except MomentFault (Checked Stamp) :=
  match count with
  | .whole n => stampOfCount n 0
  | .real x =>
      let inSeconds := if x.abs > 20000000000.0 then x / 1000.0 else x
      let (seconds, micros) := splitSeconds inSeconds
      stampOfCount seconds micros

/-- A written day, or a written count in its place. -/
def dayOfText (cs : List Char) : Except MomentFault (Checked Stamp) :=
  match dayInFront cs, writtenCount? cs with
  | .ok date, _ =>
      if cs.length > 10 then .error .extra else .ok (stampOf date 0 none)
  | .error _, some (.whole n) => stampOfCount n 0
  | .error fault, _ => .error fault

/-- A stamp written as text. -/
def stampOfText (s : String) (found : Value) : Checked Stamp :=
  let cs := byteChars s
  let counted := ((writtenCount? cs).bind fun count => (stampOfWritten count).toOption)
  match (writtenStamp? cs).orElse fun _ => counted with
  | some stamp => stamp
  | none =>
      match dayOfText cs with
      | .ok stamp => stamp
      | .error fault => .fault (.dayText fault.message) found

def countOutcome (found : Value) : Except MomentFault (Checked Stamp) -> Checked Stamp
  | .ok stamp => stamp
  | .error fault => .fault (.momentText fault.message) found

/-- A stamp of any of the known forms. -/
def stamp (value : Value) : Checked Stamp :=
  match value with
  | .stamp s => .good s
  | .date d => stampOf d 0 none
  | .number (.whole n) =>
      if n.natAbs < Number.twoTo 63 then countOutcome value (stampOfCount n 0)
      else match Number.ofInt? n with
        | some x => countOutcome value (stampOfFloat x)
        | none => .fault .moment value
  | .number (.real x) => countOutcome value (stampOfFloat x)
  | other =>
      match textOf? other with
      | some (some s) => stampOfText s value
      | _ => .fault .moment value

/-- The instant of a checked stamp; an instant outside the calendar ends the check. -/
def instantOf (stamp : Stamp) : Checked Instant :=
  match stamp.toInstant? with
  | some instant => .good instant
  | none => .ended (.outOfRange Stamp.outOfRangeMessage)

def moment (value : Value) : Checked Instant := (stamp value).andThen instantOf

end Field
end Triage
