import Triage.Number.Binary64
import Triage.Time.Stamp
import Triage.Text.Digit
import Triage.Text.Quoted

namespace Triage
namespace Time

/-!
Reading ISO 8601 stamps.

A day is written with or without hyphens, or by year, week and day of the week.  One
character of any kind separates it from the time, which is written with or without colons
down to the precision wanted.  A distance from UTC is `Z` or a signed time.
-/

/-- Why a text is no stamp. -/
inductive StampFault where
  | malformed (text : String)
  | date (fault : DateFault)
  | clock (field : String) (last : Nat)
  | offset (ahead : Int)
deriving DecidableEq, Repr

/-- The wording of a fault. -/
def StampFault.message : StampFault -> String
  | .malformed text => "Invalid isoformat string: " ++ Text.quoted text
  | .date fault => fault.message
  | .clock field last => field ++ " must be in 0.." ++ toString last
  | .offset ahead => offsetMessage ahead

/-- Reads exactly a number of plain digits. -/
def readDigits : Nat -> List Char -> Option (Nat × List Char)
  | width, cs =>
      let digits := (cs.take width).filterMap Text.plainDigit?
      if digits.length == width then some (Text.ofDigits digits, cs.drop width) else none

/-- How many of the characters write the day. -/
def dayLength (cs : List Char) : Nat :=
  let char (i : Nat) := (cs[i]?).getD ' '
  let isPlain (i : Nat) := ((cs[i]?).bind Text.plainDigit?).isSome
  if cs.length == 7 then 7
  else if char 4 == '-' then
    if char 5 == 'W' then
      if cs.length > 8 && char 8 == '-' then
        if cs.length == 9 then 0
        else if cs.length > 10 && isPlain 10 then 8
        else 10
      else 8
    else 10
  else if char 4 == 'W' then
    let stop := 7 + ((cs.drop 7).takeWhile fun c => (Text.plainDigit? c).isSome).length
    if stop < 9 then stop else if stop % 2 == 0 then 7 else 8
  else 8

/-- Reads week and day of the week after the letter; the day may be left out. -/
def readWeek (hyphens : Bool) (year : Nat) (cs : List Char) : Option (Nat × Nat × Nat) := do
  let (week, rest) <- readDigits 2 cs
  let (day, rest) <-
    if rest.isEmpty then some (1, [])
    else if !hyphens then readDigits 1 rest
    else if rest.head? == some '-' then readDigits 1 (rest.drop 1)
    else none
  if rest.isEmpty then
    (Date.ofWeek? year week day).map fun date => (date.year, date.month, date.day)
  else none

/-- Reads month and day; the numbers may still name no day of the calendar. -/
def readMonth (hyphens : Bool) (year : Nat) (cs : List Char) : Option (Nat × Nat × Nat) := do
  let (month, rest) <- readDigits 2 cs
  let rest <-
    if !hyphens then some rest
    else if rest.head? == some '-' then some (rest.drop 1)
    else none
  let (day, rest) <- readDigits 2 rest
  if rest.isEmpty then some (year, month, day) else none

/-- Reads the day of a stamp. -/
def readDay (cs : List Char) : Option (Nat × Nat × Nat) := do
  let (year, rest) <- readDigits 4 cs
  let hyphens := rest.head? == some '-'
  let rest := if hyphens then rest.drop 1 else rest
  if rest.head? == some 'W' then readWeek hyphens year (rest.drop 1)
  else readMonth hyphens year rest

/-- The numbers of a written time of day, and whether something followed them. -/
structure Clock where
  fields : List Nat
  microsecond : Nat
  leftover : Bool

/-- Reads the digits of a fraction: six count, further ones are skipped. -/
def readFraction (fields : List Nat) (cs : List Char) : Option Clock := do
  let width := min 6 cs.length
  let (value, rest) <- readDigits width cs
  let rest := rest.dropWhile fun c => (Text.plainDigit? c).isSome
  pure ⟨fields, value * Number.tenTo (6 - width), !rest.isEmpty⟩

/--
Reads hours, minutes and seconds, the given number of fields at most.  Whether colons
separate them is settled after the hours.  One plain character may stand behind them.
-/
def readFields : Nat -> Option Bool -> List Nat -> List Char -> Option Clock
  | 0, _, fields, cs => readFraction fields cs
  | left + 1, colons, fields, cs => do
      let (value, rest) <- readDigits 2 cs
      let fields := fields ++ [value]
      match rest with
      | [] => pure ⟨fields, 0, false⟩
      | c :: tail =>
          let separated := colons.getD (c == ':')
          if tail.isEmpty then
            if c.utf8Size = 1 then pure ⟨fields, 0, true⟩ else none
          else if separated && c == ':' then readFields left (some separated) fields tail
          else if c == '.' || c == ',' then readFraction fields tail
          else if !separated then readFields left (some separated) fields rest
          else none

/-- A written time of day. -/
def readClock (cs : List Char) : Option Clock := readFields 3 none [] cs

/-- One field of a written time, zero when it is not written. -/
def Clock.field (clock : Clock) (i : Nat) : Nat := (clock.fields[i]?).getD 0

/-- The whole seconds of a written time. -/
def Clock.seconds (clock : Clock) : Nat :=
  3600 * clock.field 0 + 60 * clock.field 1 + clock.field 2

/-- Reads the time after the separator, with its distance from UTC. -/
def readTime (cs : List Char) : Option (Clock × Option Int) := do
  let opens := fun c : Char => c == '+' || c == '-' || c == 'Z'
  let body := match cs with
    | c :: rest => if opens c then [] else c :: rest.takeWhile fun c => !opens c
    | [] => []
  let zone := cs.drop body.length
  let clock <- readClock body
  match zone with
  | [] => if clock.leftover then none else some (clock, none)
  | 'Z' :: rest => if rest.isEmpty then some (clock, some 0) else none
  | sign :: rest =>
      let distance <- readClock rest
      if distance.leftover then none
      else if distance.seconds == 0 then some (clock, some 0)
      else
        let size : Int := distance.seconds * second + distance.microsecond
        some (clock, some (if sign == '-' then -size else size))

/-- Checks that the fields of a written time name one. -/
def Clock.check (clock : Clock) : Except StampFault Nat :=
  if clock.field 0 > 23 then .error (.clock "hour" 23)
  else if clock.field 1 > 59 then .error (.clock "minute" 59)
  else if clock.field 2 > 59 then .error (.clock "second" 59)
  else .ok (clock.seconds * second + clock.microsecond)

/-- Builds the stamp of a day, a time and a distance. -/
def assemble (text : String) (day : Nat × Nat × Nat) (clock : Clock) (offset : Option Int) :
    Except StampFault Stamp := do
  match offset with
  | some ahead => if ahead.natAbs ≥ Time.day then throw (.offset ahead)
  | none => pure ()
  let date <- (Date.make day.1 day.2.1 day.2.2).mapError .date
  let time <- clock.check
  match Instant.at? date time with
  | some wall => pure ⟨wall, offset⟩
  | none => throw (.malformed text)

def readStamp (text : String) : Except StampFault Stamp :=
  let cs := text.toList
  let length := dayLength cs
  let malformed := StampFault.malformed text
  if cs.length < 7 then .error malformed
  else match readDay (cs.take length) with
    | none => .error malformed
    | some date =>
        if cs.length ≤ length then assemble text date ⟨[], 0, false⟩ none
        else match readTime (cs.drop (length + 1)) with
          | none => .error malformed
          | some (clock, offset) => assemble text date clock offset

end Time
end Triage
