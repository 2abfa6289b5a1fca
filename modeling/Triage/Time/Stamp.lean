import Triage.Time.Instant

namespace Triage

/-!
Stamps: what a clock on a wall shows, with or without the distance of that clock from UTC.

A stamp without a distance counts as UTC.  Turning a stamp into an instant can leave the
calendar at either end, and that is the only way it fails.
-/

/-- A wall-clock reading and, if known, how far that clock is ahead of UTC. -/
structure Stamp where
  wall : Instant
  /-- Microseconds ahead of UTC. -/
  offset : Option Int
deriving DecidableEq, Repr, Inhabited

namespace Stamp

def toInstant? (stamp : Stamp) : Option Instant :=
  match stamp.offset with
  | none => some stamp.wall
  | some ahead => stamp.wall.shift? (-ahead)

/-- The instant of a stamp; where the calendar has none, the one that the wall shows. -/
def instant (stamp : Stamp) : Instant := stamp.toInstant?.getD stamp.wall

/-- The wording for a stamp whose instant lies outside the calendar. -/
def outOfRangeMessage : String := "date value out of range"

/-- The stamp that shows an instant in UTC. -/
def ofInstant (instant : Instant) : Stamp := ⟨instant, some 0⟩

/-- An instant survives being shown in UTC. -/
theorem toInstant?_ofInstant (instant : Instant) :
    (ofInstant instant).toInstant? = some instant := by
  have bound := instant.inRange
  simp [ofInstant, toInstant?, Instant.shift?, Instant.ofTicks?, bound]

/-- A stamp that shows an instant in UTC is a stamp of that instant. -/
@[simp]
theorem instant_ofInstant (instant : Instant) : (ofInstant instant).instant = instant := by
  simp [Stamp.instant, toInstant?_ofInstant]

/-- The written form of a distance from UTC. -/
def offsetText (ahead : Int) : String :=
  let size := ahead.natAbs
  let seconds := size / Time.second % 60
  let rest := size % Time.second
  (if ahead < 0 then "-" else "+") ++ Time.padded 2 (size / Time.hour) ++ ":" ++
    Time.padded 2 (size / (60 * Time.second) % 60) ++
    (if seconds == 0 && rest == 0 then "" else ":" ++ Time.padded 2 seconds) ++
    (if rest == 0 then "" else "." ++ Time.padded 6 rest)

/-- The written form of a time of day. -/
def timeText (instant : Instant) : String :=
  Time.padded 2 instant.hourOfDay ++ ":" ++ Time.padded 2 instant.minuteOfHour ++ ":" ++
    Time.padded 2 instant.secondOfMinute ++
    (if instant.microsecond == 0 then "" else "." ++ Time.padded 6 instant.microsecond)

/-- Day and time with a separator between them. -/
def textWith (separator : String) (stamp : Stamp) : String :=
  stamp.wall.date.text ++ separator ++ timeText stamp.wall ++
    (stamp.offset.map offsetText).getD ""

/-- The written form of a stamp. -/
def text (stamp : Stamp) : String := stamp.textWith "T"

/-- Whether two stamps with known distances, or two without, name the same instant. -/
def same (a b : Stamp) : Bool :=
  match a.offset, b.offset with
  | none, none => a.wall == b.wall
  | some x, some y => (a.wall.ticks : Int) - x == (b.wall.ticks : Int) - y
  | _, _ => false

/-- Microseconds from one stamp to another of its kind, with a known distance or without. -/
def distanceTo? (start stop : Stamp) : Option Int :=
  match start.offset, stop.offset with
  | none, none => some ((stop.wall.ticks : Int) - start.wall.ticks)
  | some x, some y => some (((stop.wall.ticks : Int) - y) - ((start.wall.ticks : Int) - x))
  | _, _ => none

/-- The wording for two stamps of which only one has a known distance. -/
def mixedMessage : String := "can't subtract offset-naive and offset-aware datetimes"

/-- A length of time, spelled out by days, seconds and microseconds. -/
def lengthDisplay (microseconds : Int) : String :=
  let days := microseconds.fdiv Time.day
  let rest := (microseconds.fmod Time.day).toNat
  let parts := [("days", days), ("seconds", (rest / Time.second : Nat)),
    ("microseconds", (rest % Time.second : Nat))]
  let shown := parts.filter fun part => part.2 != 0
  let inner := shown.map fun part => part.1 ++ "=" ++ toString part.2
  "datetime.timedelta(" ++
    (if inner.isEmpty then "0" else String.intercalate ", " inner) ++ ")"

/-- A distance from UTC, spelled out. -/
def offsetDisplay (ahead : Int) : String :=
  if ahead == 0 then "datetime.timezone.utc"
  else "datetime.timezone(" ++ lengthDisplay ahead ++ ")"

/-- A stamp spelled out by its numbers; trailing zeros after the minutes are left out. -/
def display (stamp : Stamp) : String :=
  let wall := stamp.wall
  let date := wall.date
  let numbers := [date.year, date.month, date.day, wall.hourOfDay, wall.minuteOfHour]
  let seconds :=
    if wall.microsecond != 0 then [wall.secondOfMinute, wall.microsecond]
    else if wall.secondOfMinute != 0 then [wall.secondOfMinute]
    else []
  let zone := (stamp.offset.map fun ahead => ", tzinfo=" ++ offsetDisplay ahead).getD ""
  "datetime.datetime(" ++ String.intercalate ", " ((numbers ++ seconds).map toString) ++
    zone ++ ")"

end Stamp

/-- The wording for a distance from UTC of a day or more. -/
def Time.offsetMessage (ahead : Int) : String :=
  "offset must be a timedelta strictly between -timedelta(hours=24) and " ++
    "timedelta(hours=24), not " ++ Stamp.lengthDisplay ahead ++ "."

/-- The written form of an instant, in UTC. -/
def Instant.text (instant : Instant) : String := (Stamp.ofInstant instant).text

/-- A day spelled out by its numbers. -/
def Time.Date.display (date : Time.Date) : String :=
  "datetime.date(" ++
    String.intercalate ", " ([date.year, date.month, date.day].map toString) ++ ")"

end Triage
