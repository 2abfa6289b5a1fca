import Triage.Time.Calendar

namespace Triage

/-!
Instants.

An instant counts microseconds from the start of the year 1 and ends with the year 9999; the
bound is part of the type, so an instant always has a written form.
-/

namespace Time

/-- Microseconds of a second. -/
def second : Nat := 1000000

/-- Microseconds of an hour. -/
def hour : Nat := 3600 * second

/-- Microseconds of a day. -/
def day : Nat := 24 * hour

end Time

/-- A point in time, in microseconds from the start of the year 1. -/
structure Instant where
  ticks : Nat
  inRange : ticks < Time.dayCount * Time.day
deriving DecidableEq

namespace Instant

instance : Inhabited Instant := ⟨⟨0, by decide⟩⟩

instance : Repr Instant := ⟨fun instant _ => repr instant.ticks⟩

/-- An instant from a count that may lie outside the calendar. -/
def ofTicks? (ticks : Int) : Option Instant :=
  if h : ticks.toNat < Time.dayCount * Time.day then
    if 0 ≤ ticks then some ⟨ticks.toNat, h⟩ else none
  else none

/-- Moves an instant by microseconds. -/
def shift? (instant : Instant) (distance : Int) : Option Instant :=
  ofTicks? (instant.ticks + distance)

instance : Ord Instant := ⟨fun a b => compare a.ticks b.ticks⟩

instance : LT Instant := ⟨fun a b => a.ticks < b.ticks⟩

instance (a b : Instant) : Decidable (a < b) := inferInstanceAs (Decidable (a.ticks < b.ticks))

theorem ext {a b : Instant} (same : a.ticks = b.ticks) : a = b := by
  cases a
  cases b
  cases same
  rfl

/-- Microseconds from one instant to another. -/
def distanceTo (start stop : Instant) : Int :=
  (stop.ticks : Int) - start.ticks

/-- Whole units of a distance; none of them when it points backwards. -/
def unitsIn (unit : Nat) (distance : Int) : Nat := distance.toNat / unit

/-- Whole units from one instant to another; zero when the second is the earlier one. -/
def wholeUnits (unit : Nat) (start stop : Instant) : Nat := unitsIn unit (start.distanceTo stop)

/-- Whole days elapsed. -/
def wholeDays (start stop : Instant) : Nat := wholeUnits Time.day start stop

/-- Whole hours elapsed. -/
def wholeHours (start stop : Instant) : Nat := wholeUnits Time.hour start stop

/-- The day of an instant. -/
def date (instant : Instant) : Time.Date :=
  Time.Date.ofDays (instant.ticks / Time.day)

/-- Microseconds since the start of the day. -/
def timeOfDay (instant : Instant) : Nat := instant.ticks % Time.day

def hourOfDay (instant : Instant) : Nat := instant.timeOfDay / Time.hour

/-- Minutes of the hour. -/
def minuteOfHour (instant : Instant) : Nat := instant.timeOfDay / (60 * Time.second) % 60

def secondOfMinute (instant : Instant) : Nat := instant.timeOfDay / Time.second % 60

def microsecond (instant : Instant) : Nat := instant.timeOfDay % Time.second

def at? (date : Time.Date) (timeOfDay : Nat) : Option Instant :=
  ofTicks? ((date.toDays * Time.day + timeOfDay : Nat) : Int)

/-- The instant from which timestamps in seconds count. -/
def epochTicks : Nat := 719162 * Time.day

/-- Whole seconds since the start of 1970, or until it. -/
def epochSeconds (instant : Instant) : Int :=
  ((instant.ticks : Int) - epochTicks).tdiv Time.second

theorem wholeUnits_of_le {unit : Nat} {start stop : Instant}
    (ordered : stop.ticks ≤ start.ticks) : wholeUnits unit start stop = 0 := by
  have backwards : (start.distanceTo stop).toNat = 0 := by
    simp only [distanceTo]
    omega
  simp [wholeUnits, unitsIn, backwards]

end Instant
end Triage
