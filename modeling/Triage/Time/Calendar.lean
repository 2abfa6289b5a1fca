namespace Triage
namespace Time

/-!
The calendar: years 1 to 9999 of the Gregorian rule, extended to all of them.

Days are counted from the first of January of the year 1, which is day zero.
-/

/-- Every fourth year is long, except full centuries that are not multiples of 400. -/
def isLeap (year : Nat) : Bool :=
  year % 4 == 0 && (year % 100 != 0 || year % 400 == 0)

/-- The number of days of a month. -/
def daysInMonth (year month : Nat) : Nat :=
  if month == 2 then (if isLeap year then 29 else 28)
  else if month == 4 || month == 6 || month == 9 || month == 11 then 30
  else 31

/-- Days before the first of January of a year. -/
def daysBeforeYear (year : Nat) : Nat :=
  let past := year - 1
  365 * past + past / 4 - past / 100 + past / 400

/-- Days of a year before the first of a month. -/
def daysBeforeMonth (year month : Nat) : Nat :=
  (List.range (month - 1)).foldl (fun days m => days + daysInMonth year (m + 1)) 0

/-- A day of the calendar. -/
structure Date where
  year : Nat
  month : Nat
  day : Nat
deriving DecidableEq, Repr, Inhabited

/-- Why three numbers are no day. -/
inductive DateFault where
  | year (number : Nat)
  | month
  | day
deriving DecidableEq, Repr

/-- The wording of a fault. -/
def DateFault.message : DateFault -> String
  | .year number => "year " ++ toString number ++ " is out of range"
  | .month => "month must be in 1..12"
  | .day => "day is out of range for month"

/-- A day from its numbers; the year is looked at first, the day last. -/
def Date.make (year month day : Nat) : Except DateFault Date :=
  if year < 1 || 9999 < year then .error (.year year)
  else if month < 1 || 12 < month then .error .month
  else if day < 1 || daysInMonth year month < day then .error .day
  else .ok ⟨year, month, day⟩

/-- The number of a day. -/
def Date.toDays (date : Date) : Nat :=
  daysBeforeYear date.year + daysBeforeMonth date.year date.month + (date.day - 1)

/-- The number of days from the year 1 through the year 9999. -/
def dayCount : Nat := 3652059

/-- Walks over the months of a year until the remaining days fit. -/
def monthOf (year : Nat) : Nat -> Nat -> Nat -> Nat × Nat
  | 0, month, rest => (month, rest)
  | fuel + 1, month, rest =>
      let length := daysInMonth year month
      if rest < length then (month, rest) else monthOf year fuel (month + 1) (rest - length)

/-- The year of a day number and the days into that year. -/
def yearOf (days : Nat) : Nat × Nat :=
  let fourCenturies := days / 146097
  let inFourCenturies := days % 146097
  let centuries := min 3 (inFourCenturies / 36524)
  let inCentury := inFourCenturies - 36524 * centuries
  let fourYears := inCentury / 1461
  let inFourYears := inCentury % 1461
  let years := min 3 (inFourYears / 365)
  (400 * fourCenturies + 100 * centuries + 4 * fourYears + years + 1, inFourYears - 365 * years)

/-- The day of a number. -/
def Date.ofDays (days : Nat) : Date :=
  let (year, rest) := yearOf days
  let (month, rest) := monthOf year 11 1 rest
  ⟨year, month, rest + 1⟩

/-- The day of the week, Monday being zero. -/
def weekday (days : Nat) : Nat := days % 7

/-- The day number of the Monday that opens the first week of a year. -/
def firstWeek (year : Nat) : Int :=
  let start : Int := daysBeforeYear year
  let day := weekday (daysBeforeYear year)
  if day > 3 then start - day + 7 else start - day

/-- A day from year, week and day of the week. -/
def Date.ofWeek? (year week day : Nat) : Option Date :=
  if year < 1 || 9999 < year || week < 1 || 53 < week || day < 1 || 7 < day then none
  else
    let first := weekday (daysBeforeYear year)
    let long := first == 3 || (first == 2 && isLeap year)
    if week == 53 && !long then none
    else
      let days := firstWeek year + 7 * ((week : Int) - 1) + ((day : Int) - 1)
      if days < 0 || (dayCount : Int) ≤ days then none
      else some (Date.ofDays days.toNat)

/-- A number in decimal digits, with zeros in front up to a width. -/
def padded (width n : Nat) : String :=
  let digits := Nat.toDigits 10 n
  String.ofList (List.replicate (width - digits.length) '0' ++ digits)

/-- The written form of a day. -/
def Date.text (date : Date) : String :=
  padded 4 date.year ++ "-" ++ padded 2 date.month ++ "-" ++ padded 2 date.day

end Time
end Triage
