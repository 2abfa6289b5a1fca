import Mathlib.Algebra.Group.Nat.Defs
import Triage.Proofs.Checked
import Triage.Time.Instant
import Triage.Time.Written

namespace Triage

/-!
# Written instants

Counting days and naming them are inverse to each other on the days of the calendar.  A day
number comes apart into a year and a day of that year, and the latter into a month and a day of
that month; each of the two steps is shown to add up again, and to stay within the length of what
it counts in.

An instant is written with all its digits, day before time, and reading what was written gives
the same instant in UTC.  Numbers are written with a fixed number of digits and read back from
the front of whatever follows them, so a written stamp is read piece by piece.
-/

namespace Time

/-- How many days a year has. -/
def daysInYear (year : Nat) : Nat := if isLeap year then 366 else 365

/-! ## Months -/

theorem daysBeforeMonth_one (year : Nat) : daysBeforeMonth year 1 = 0 := rfl

theorem daysBeforeMonth_succ (year month : Nat) (counted : 1 ≤ month) :
    daysBeforeMonth year (month + 1) = daysBeforeMonth year month + daysInMonth year month := by
  have split : month + 1 - 1 = (month - 1) + 1 := by omega
  have back : month - 1 + 1 = month := by omega
  rw [daysBeforeMonth, split, List.range_succ, List.foldl_append, List.foldl_cons,
    List.foldl_nil, back]
  rfl

theorem daysBeforeMonth_december (year : Nat) :
    daysBeforeMonth year 12 + daysInMonth year 12 = daysInYear year := by
  cases leap : isLeap year <;> simp [daysBeforeMonth, List.range, List.range.loop, daysInMonth,
    daysInYear, leap]

/-- Walking over months neither loses nor invents days, and stops inside a month unless the walk
was too short. -/
private theorem monthOf_spec (year fuel month rest : Nat) (counted : 1 ≤ month) :
    daysBeforeMonth year (monthOf year fuel month rest).1 + (monthOf year fuel month rest).2 =
        daysBeforeMonth year month + rest ∧
      month ≤ (monthOf year fuel month rest).1 ∧
      (monthOf year fuel month rest).1 ≤ month + fuel ∧
      ((monthOf year fuel month rest).2 < daysInMonth year (monthOf year fuel month rest).1 ∨
        (monthOf year fuel month rest).1 = month + fuel) := by
  induction fuel generalizing month rest with
  | zero => exact ⟨rfl, Nat.le_refl _, Nat.le_refl _, Or.inr rfl⟩
  | succ fuel inductionHypothesis =>
      by_cases inside : rest < daysInMonth year month
      · rw [monthOf, if_pos inside]
        exact ⟨rfl, Nat.le_refl _, Nat.le_add_right _ _, Or.inl inside⟩
      · rw [monthOf, if_neg inside]
        have later := inductionHypothesis (month + 1) (rest - daysInMonth year month) (by omega)
        have before := daysBeforeMonth_succ year month counted
        omega

/-- A day of a year is a day of one of its twelve months. -/
theorem monthOf_of_lt {year rest : Nat} (inYear : rest < daysInYear year) :
    daysBeforeMonth year (monthOf year 11 1 rest).1 + (monthOf year 11 1 rest).2 = rest ∧
      1 ≤ (monthOf year 11 1 rest).1 ∧ (monthOf year 11 1 rest).1 ≤ 12 ∧
      (monthOf year 11 1 rest).2 < daysInMonth year (monthOf year 11 1 rest).1 := by
  have walked := monthOf_spec year 11 1 rest (Nat.le_refl 1)
  rw [daysBeforeMonth_one, Nat.zero_add] at walked
  rcases walked with ⟨sum, first, last, inside | ended⟩
  · exact ⟨sum, first, last, inside⟩
  · have december := daysBeforeMonth_december year
    rw [ended] at sum ⊢
    rw [show 1 + 11 = 12 from rfl] at sum ⊢
    exact ⟨sum, by omega, by omega, by omega⟩

/-! ## Years -/

/-- A year is long when it ends four years, unless those end a century that ends no four. -/
private theorem isLeap_of_parts (fourCenturies : Nat) {centuries fourYears years : Nat}
    (few : centuries ≤ 3) (short : fourYears ≤ 24) (ordinary : years ≤ 3) :
    isLeap (400 * fourCenturies + 100 * centuries + 4 * fourYears + years + 1) = true ↔
      years = 3 ∧ (fourYears ≠ 24 ∨ centuries = 3) := by
  simp only [isLeap, Bool.and_eq_true, Bool.or_eq_true, beq_iff_eq, bne_iff_ne]
  omega

/-- The days before a year, by the parts that its number comes apart into. -/
private theorem daysBeforeYear_of_parts (fourCenturies : Nat) {centuries fourYears years : Nat}
    (few : centuries ≤ 3) (short : fourYears ≤ 24) (ordinary : years ≤ 3) :
    daysBeforeYear (400 * fourCenturies + 100 * centuries + 4 * fourYears + years + 1) =
      146097 * fourCenturies + 36524 * centuries + 1461 * fourYears + 365 * years := by
  have quarters : (400 * fourCenturies + 100 * centuries + 4 * fourYears + years) / 4 =
      100 * fourCenturies + 25 * centuries + fourYears := by omega
  have hundreds : (400 * fourCenturies + 100 * centuries + 4 * fourYears + years) / 100 =
      4 * fourCenturies + centuries := by omega
  have wholes : (400 * fourCenturies + 100 * centuries + 4 * fourYears + years) / 400 =
      fourCenturies := by omega
  rw [daysBeforeYear, Nat.add_sub_cancel, quarters, hundreds, wholes]
  omega

/-- A day number is so many days into its year. -/
theorem yearOf_spec (days : Nat) :
    daysBeforeYear (yearOf days).1 + (yearOf days).2 = days ∧ 1 ≤ (yearOf days).1 ∧
      (yearOf days).2 < daysInYear (yearOf days).1 := by
  have centuries : min 3 (days % 146097 / 36524) ≤ 3 := Nat.min_le_left _ _
  have fourYears : (days % 146097 - 36524 * min 3 (days % 146097 / 36524)) / 1461 ≤ 24 := by omega
  have years : min 3 ((days % 146097 - 36524 * min 3 (days % 146097 / 36524)) % 1461 / 365) ≤ 3 :=
    Nat.min_le_left _ _
  have before := daysBeforeYear_of_parts (days / 146097) centuries fourYears years
  have leap := isLeap_of_parts (days / 146097) centuries fourYears years
  refine ⟨?_, Nat.le_add_left 1 _, ?_⟩
  · simp only [yearOf]
    rw [before]
    omega
  · rw [daysInYear]
    by_cases long : isLeap (yearOf days).1 = true
    · have parts := leap.mp long
      rw [if_pos long]
      simp only [yearOf]
      omega
    · have parts := mt leap.mpr long
      rw [if_neg long]
      simp only [yearOf]
      omega

/-- The years of the calendar end where its days do. -/
theorem yearOf_le {days : Nat} (inCalendar : days < dayCount) : (yearOf days).1 ≤ 9999 := by
  have sum := yearOf_spec days
  simp only [daysBeforeYear] at sum
  simp only [dayCount] at inCalendar
  omega

/-! ## Dates -/

/-- The parts that a day number comes apart into, as a date. -/
theorem Date.ofDays_eq (days : Nat) :
    Date.ofDays days = ⟨(yearOf days).1, (monthOf (yearOf days).1 11 1 (yearOf days).2).1,
      (monthOf (yearOf days).1 11 1 (yearOf days).2).2 + 1⟩ := rfl

theorem Date.toDays_ofDays (days : Nat) : (Date.ofDays days).toDays = days := by
  have year := yearOf_spec days
  have month := monthOf_of_lt year.2.2
  simp only [Date.ofDays_eq, Date.toDays, Nat.add_sub_cancel]
  omega

/-- The numbers of a day of the calendar name that day. -/
theorem Date.make_ofDays {days : Nat} (inCalendar : days < dayCount) :
    Date.make (Date.ofDays days).year (Date.ofDays days).month (Date.ofDays days).day =
      .ok (Date.ofDays days) := by
  have year := yearOf_spec days
  have late := yearOf_le inCalendar
  have month := monthOf_of_lt year.2.2
  have noYear : ¬((yearOf days).1 < 1 ∨ 9999 < (yearOf days).1) := by omega
  have noMonth : ¬((monthOf (yearOf days).1 11 1 (yearOf days).2).1 < 1 ∨
      12 < (monthOf (yearOf days).1 11 1 (yearOf days).2).1) := by omega
  have noDay : ¬((monthOf (yearOf days).1 11 1 (yearOf days).2).2 + 1 < 1 ∨
      daysInMonth (yearOf days).1 (monthOf (yearOf days).1 11 1 (yearOf days).2).1 <
        (monthOf (yearOf days).1 11 1 (yearOf days).2).2 + 1) := by omega
  rw [Date.ofDays_eq]
  simp only [Date.make, Bool.or_eq_true, decide_eq_true_eq, noYear, noMonth, noDay, if_false]

theorem Date.year_ofDays_le {days : Nat} (inCalendar : days < dayCount) :
    (Date.ofDays days).year ≤ 9999 := yearOf_le inCalendar

theorem Date.month_ofDays_le (days : Nat) : (Date.ofDays days).month ≤ 12 :=
  (monthOf_of_lt (yearOf_spec days).2.2).2.2.1

theorem Date.day_ofDays_le (days : Nat) : (Date.ofDays days).day ≤ 31 := by
  have inside := (monthOf_of_lt (yearOf_spec days).2.2).2.2.2
  have longest : forall year month, daysInMonth year month ≤ 31 := by
    intro year month
    simp only [daysInMonth]
    repeat' split
    all_goals omega
  exact Nat.succ_le_of_lt (Nat.lt_of_lt_of_le inside (longest _ _))

end Time

namespace Instant

theorem day_lt (instant : Instant) : instant.ticks / Time.day < Time.dayCount :=
  Nat.div_lt_of_lt_mul (by rw [Nat.mul_comm]; exact instant.inRange)

/-- An instant is at its time of its day. -/
theorem at?_date (instant : Instant) : at? instant.date instant.timeOfDay = some instant := by
  have sum : instant.date.toDays * Time.day + instant.timeOfDay = instant.ticks := by
    rw [date, Time.Date.toDays_ofDays, timeOfDay, Nat.mul_comm, Nat.div_add_mod]
  have bound := instant.inRange
  rw [at?, sum, ofTicks?]
  simp [bound]

end Instant

namespace Time

/-! ## Numbers of a fixed width -/

/-- The last digits of a number, the first of them in front. -/
def digits : Nat -> Nat -> List Char
  | 0, _ => []
  | width + 1, n => digits width (n / 10) ++ [(n % 10).digitChar]

theorem digits_zero (width : Nat) : digits width 0 = List.replicate width '0' := by
  induction width with
  | zero => rfl
  | succ width inductionHypothesis =>
      rw [digits, Nat.zero_div, Nat.zero_mod, inductionHypothesis, List.replicate_succ']
      rfl

/-- A number that is not too wide is padded to exactly its last digits. -/
theorem padded_toList (width n : Nat) (narrow : n < 10 ^ (width + 1)) :
    (padded (width + 1) n).toList = digits (width + 1) n := by
  induction width generalizing n with
  | zero =>
      have single : n < 10 := by omega
      simp [padded, digits, Nat.toDigits_of_lt_base single, Nat.mod_eq_of_lt single]
  | succ width inductionHypothesis =>
      by_cases single : n < 10
      · have nothing : n / 10 = 0 := by omega
        have written := digits_zero (width + 1)
        rw [digits, nothing, written, Nat.mod_eq_of_lt single]
        simp [padded, Nat.toDigits_of_lt_base single]
      · have shorter : n / 10 < 10 ^ (width + 1) := by
          rw [Nat.pow_succ] at narrow
          omega
        have before := inductionHypothesis (n / 10) shorter
        have apart := Nat.toDigits_of_base_le (b := 10) (n := n) (by decide) (by omega)
        rw [digits, <- before]
        simp [padded, apart]

theorem plainDigit?_digitChar (n : Nat) : Text.plainDigit? (n % 10).digitChar = some (n % 10) := by
  have each : forall d : Fin 10, Text.plainDigit? (d : Nat).digitChar = some d := by decide
  exact each ⟨n % 10, Nat.mod_lt n (by decide)⟩

/-- Digits have a value each, and together that of the number they write. -/
theorem filterMap_digits (width n : Nat) (narrow : n < 10 ^ width) :
    ((digits width n).filterMap Text.plainDigit?).length = width ∧
      Text.ofDigits ((digits width n).filterMap Text.plainDigit?) = n := by
  induction width generalizing n with
  | zero =>
      have zero : n = 0 := by omega
      exact ⟨rfl, zero.symm⟩
  | succ width inductionHypothesis =>
      have shorter : n / 10 < 10 ^ width := by
        rw [Nat.pow_succ] at narrow
        omega
      rcases inductionHypothesis (n / 10) shorter with ⟨long, value⟩
      have last : [(n % 10).digitChar].filterMap Text.plainDigit? = [n % 10] := by
        rw [List.filterMap_cons_some (plainDigit?_digitChar n), List.filterMap_nil]
      rw [digits, List.filterMap_append, last]
      refine ⟨by rw [List.length_append, long, List.length_singleton], ?_⟩
      rw [Text.ofDigits, List.foldl_append, <- Text.ofDigits, value]
      exact Nat.div_add_mod n 10

theorem length_digits (width n : Nat) : (digits width n).length = width := by
  induction width generalizing n with
  | zero => rfl
  | succ width inductionHypothesis =>
      rw [digits, List.length_append, inductionHypothesis, List.length_singleton]

/-- Written digits are read back, and what follows them is left. -/
theorem readDigits_digits (width n : Nat) (rest : List Char) (narrow : n < 10 ^ width) :
    readDigits width (digits width n ++ rest) = some (n, rest) := by
  rcases filterMap_digits width n narrow with ⟨long, value⟩
  have front : (digits width n ++ rest).take width = digits width n :=
    List.take_left' (length_digits width n)
  have behind : (digits width n ++ rest).drop width = rest :=
    List.drop_left' (length_digits width n)
  rw [readDigits, front, behind, long, value, beq_self_eq_true, if_pos rfl]

/-- A character that is no digit is none of the written ones. -/
theorem digitChar_ne {c : Char} (other : Text.plainDigit? c = none) (n : Nat) :
    (n % 10).digitChar ≠ c := by
  intro same
  have digit := plainDigit?_digitChar n
  rw [same, other] at digit
  cases digit

theorem two_digits (n : Nat) :
    digits 2 n = [(n / 10 % 10).digitChar, (n % 10).digitChar] := rfl

theorem four_digits (n : Nat) :
    digits 4 n = [(n / 10 / 10 / 10 % 10).digitChar, (n / 10 / 10 % 10).digitChar,
      (n / 10 % 10).digitChar, (n % 10).digitChar] := rfl

/-! ## Days and times -/

/-- The characters of a written day. -/
def writtenDay (year month day : Nat) : List Char :=
  digits 4 year ++ '-' :: (digits 2 month ++ '-' :: digits 2 day)

theorem readDay_writtenDay {year month day : Nat} (yearly : year < 10 ^ 4)
    (monthly : month < 10 ^ 2) (daily : day < 10 ^ 2) :
    readDay (writtenDay year month day) = some (year, month, day) := by
  have noWeek : ((month / 10 % 10).digitChar == 'W') = false :=
    beq_false_of_ne (digitChar_ne rfl _)
  have monthRead := readDigits_digits 2 month ('-' :: digits 2 day) monthly
  have dayRead := readDigits_digits 2 day [] daily
  rw [List.append_nil] at dayRead
  rw [readDay, writtenDay, readDigits_digits 4 year _ yearly]
  simp only [Option.bind_eq_bind, Option.bind_some, List.head?_cons, beq_self_eq_true, if_true,
    List.drop_succ_cons, List.drop_zero]
  rw [if_neg]
  · simp only [readMonth, monthRead, Option.bind_eq_bind, Option.bind_some, Bool.not_true,
      Bool.false_eq_true, if_false, List.head?_cons, beq_self_eq_true, if_true,
      List.drop_succ_cons, List.drop_zero, dayRead, List.isEmpty_nil]
  · simp [two_digits, noWeek]

theorem dayLength_writtenDay (year month day : Nat) (c : Char) (rest : List Char) :
    dayLength (writtenDay year month day ++ c :: rest) = 10 := by
  simp [dayLength, writtenDay, four_digits, two_digits, digitChar_ne (c := 'W') rfl]

/-- The characters of a written time of day, with a fraction where it is not zero. -/
def writtenTime (hour minute second microsecond : Nat) : List Char :=
  digits 2 hour ++ ':' :: (digits 2 minute ++ ':' :: (digits 2 second ++
    if microsecond = 0 then [] else '.' :: digits 6 microsecond))

theorem readFraction_digits (fields : List Nat) {microsecond : Nat}
    (small : microsecond < 10 ^ 6) :
    readFraction fields (digits 6 microsecond) = some ⟨fields, microsecond, false⟩ := by
  have read := readDigits_digits 6 microsecond [] small
  rw [List.append_nil] at read
  rw [readFraction, length_digits, Nat.min_self]
  simp [read, Number.tenTo]

theorem readClock_writtenTime {hour minute second microsecond : Nat} (hourly : hour < 10 ^ 2)
    (minutely : minute < 10 ^ 2) (secondly : second < 10 ^ 2) (small : microsecond < 10 ^ 6) :
    readClock (writtenTime hour minute second microsecond) =
      some ⟨[hour, minute, second], microsecond, false⟩ := by
  have colon : (':' == ':') = true := rfl
  rw [readClock, writtenTime, readFields, readDigits_digits 2 hour _ hourly]
  simp only [Option.bind_eq_bind, Option.bind_some, Option.getD_none, colon, Bool.true_and,
    if_true, List.nil_append]
  rw [if_neg (by simp [two_digits]), readFields, readDigits_digits 2 minute _ minutely]
  simp only [Option.bind_eq_bind, Option.bind_some, Option.getD_some, colon, Bool.true_and,
    if_true, List.cons_append, List.nil_append]
  rw [if_neg (by simp [two_digits]), readFields, readDigits_digits 2 second _ secondly]
  by_cases none : microsecond = 0
  · simp [none]
  · have point : ('.' == ':') = false := rfl
    simp only [none, if_false, Option.bind_eq_bind, Option.bind_some, Option.getD_some, point,
      Bool.and_false, Bool.false_eq_true, beq_self_eq_true, Bool.true_or, if_true,
      List.cons_append, List.nil_append, readFraction_digits _ small]
    rw [if_neg (by simp [digits])]

theorem mem_digits {c : Char} {width n : Nat} (member : c ∈ digits width n) :
    Exists fun m => c = (m % 10).digitChar := by
  induction width generalizing n with
  | zero => cases member
  | succ width inductionHypothesis =>
      rcases List.mem_append.mp member with front | last
      · exact inductionHypothesis front
      · exact ⟨n, List.mem_singleton.mp last⟩

/-- Nothing in a written time of day looks like a distance from UTC. -/
theorem mem_writtenTime (mark : Char) {c : Char} {hour minute second microsecond : Nat}
    (noDigit : Text.plainDigit? mark = none) (noColon : mark ≠ ':') (noPoint : mark ≠ '.')
    (member : c ∈ writtenTime hour minute second microsecond) : c ≠ mark := by
  intro same
  subst same
  have noDigits : forall width n, ¬c ∈ digits width n := by
    intro width n inside
    rcases mem_digits inside with ⟨m, written⟩
    exact digitChar_ne noDigit m written.symm
  by_cases whole : microsecond = 0 <;>
    simp [writtenTime, whole, noDigits, noColon, noPoint] at member

/-- The characters of the distance of UTC from itself. -/
def writtenZone : List Char := ['+', '0', '0', ':', '0', '0']

theorem readTime_written {hour minute second microsecond : Nat} (hourly : hour < 10 ^ 2)
    (minutely : minute < 10 ^ 2) (secondly : second < 10 ^ 2) (small : microsecond < 10 ^ 6) :
    readTime (writtenTime hour minute second microsecond ++ writtenZone) =
      some (⟨[hour, minute, second], microsecond, false⟩, some 0) := by
  have clock := readClock_writtenTime hourly minutely secondly small
  have plain : forall c, c ∈ writtenTime hour minute second microsecond ->
      (!(c == '+' || c == '-' || c == 'Z')) = true := by
    intro c member
    have plus := mem_writtenTime '+' rfl (by decide) (by decide) member
    have minus := mem_writtenTime '-' rfl (by decide) (by decide) member
    have zulu := mem_writtenTime 'Z' rfl (by decide) (by decide) member
    simp [plus, minus, zulu]
  cases written : writtenTime hour minute second microsecond with
  | nil => cases written
  | cons first rest =>
      rw [written] at clock plain
      have opens := plain first List.mem_cons_self
      rw [Bool.not_eq_true'] at opens
      have body : (rest ++ writtenZone).takeWhile
          (fun c => !(c == '+' || c == '-' || c == 'Z')) = rest := by
        rw [List.takeWhile_append_of_pos fun c member => plain c (List.mem_cons_of_mem first member)]
        exact List.append_nil rest
      simp only [readTime, List.cons_append, opens, body, Bool.false_eq_true, if_false, clock,
        Option.bind_eq_bind, Option.bind_some, List.length_cons, List.drop_succ_cons,
        List.drop_left]
      rfl

/-! ## Stamps -/

/-- The day, the time and the distance from UTC make up a stamp. -/
theorem assemble_eq {text : String} {day : Nat × Nat × Nat} {clock : Clock} {date : Date}
    {time : Nat} {wall : Instant} {ahead : Int} (near : ¬ahead.natAbs ≥ Time.day)
    (made : Date.make day.1 day.2.1 day.2.2 = .ok date) (checked : clock.check = .ok time)
    (found : Instant.at? date time = some wall) :
    assemble text day clock (some ahead) = .ok ⟨wall, some ahead⟩ := by
  unfold assemble
  extract_lets build
  -- The instant is put out of sight before the match on it is opened: evaluating its bound is
  -- a computation on large numbers.
  have built : build () = .ok ⟨wall, some ahead⟩ := by
    unfold build
    have dated : (Date.make day.1 day.2.1 day.2.2).mapError StampFault.date = .ok date := by
      rw [made]
      rfl
    rw [dated, checked, Result.ok_bind, Result.ok_bind]
    generalize Instant.at? date time = spot at found
    subst found
    rfl
  change (if ahead.natAbs ≥ Time.day then _ else build ()) = _
  rw [if_neg near, built]

theorem Date.text_toList {date : Date} (yearly : date.year < 10 ^ 4)
    (monthly : date.month < 10 ^ 2) (daily : date.day < 10 ^ 2) :
    date.text.toList = writtenDay date.year date.month date.day := by
  have year := padded_toList 3 date.year yearly
  have month := padded_toList 1 date.month monthly
  have day := padded_toList 1 date.day daily
  simp [Date.text, writtenDay, year, month, day]

end Time

namespace Instant

variable (instant : Instant)

theorem hourOfDay_lt : instant.hourOfDay < 24 := by
  simp only [hourOfDay, timeOfDay, Time.day, Time.hour, Time.second]
  omega

theorem minuteOfHour_lt : instant.minuteOfHour < 60 := Nat.mod_lt _ (by decide)

theorem secondOfMinute_lt : instant.secondOfMinute < 60 := Nat.mod_lt _ (by decide)

theorem microsecond_lt : instant.microsecond < 10 ^ 6 := Nat.mod_lt _ (by decide)

/-- The parts of a time of day add up to it. -/
theorem timeOfDay_eq :
    (3600 * instant.hourOfDay + 60 * instant.minuteOfHour + instant.secondOfMinute) *
      Time.second + instant.microsecond = instant.timeOfDay := by
  simp only [hourOfDay, minuteOfHour, secondOfMinute, microsecond, Time.hour, Time.second]
  omega

end Instant

namespace Stamp

theorem timeText_toList (instant : Instant) :
    (timeText instant).toList = Time.writtenTime instant.hourOfDay instant.minuteOfHour
      instant.secondOfMinute instant.microsecond := by
  have hour := Time.padded_toList 1 instant.hourOfDay
    (Nat.lt_trans instant.hourOfDay_lt (by decide))
  have minute := Time.padded_toList 1 instant.minuteOfHour
    (Nat.lt_trans instant.minuteOfHour_lt (by decide))
  have second := Time.padded_toList 1 instant.secondOfMinute
    (Nat.lt_trans instant.secondOfMinute_lt (by decide))
  have micro := Time.padded_toList 5 instant.microsecond instant.microsecond_lt
  by_cases whole : instant.microsecond = 0 <;>
    simp [timeText, Time.writtenTime, hour, minute, second, micro, whole]

end Stamp

namespace Instant

variable (instant : Instant)

theorem text_toList :
    instant.text.toList =
      Time.writtenDay instant.date.year instant.date.month instant.date.day ++
        'T' :: (Time.writtenTime instant.hourOfDay instant.minuteOfHour instant.secondOfMinute
          instant.microsecond ++ Time.writtenZone) := by
  have day := @Time.Date.text_toList instant.date
    (Nat.lt_succ_of_le (Time.Date.year_ofDays_le instant.day_lt))
    (Nat.lt_of_le_of_lt (Time.Date.month_ofDays_le _) (by decide))
    (Nat.lt_of_le_of_lt (Time.Date.day_ofDays_le _) (by decide))
  have zone : (Stamp.offsetText 0).toList = Time.writtenZone := by decide
  simp [text, Stamp.text, Stamp.textWith, Stamp.ofInstant, day, Stamp.timeText_toList, zone]

/-- The numbers of an instant make up the instant. -/
private theorem assemble_text :
    Time.assemble instant.text (instant.date.year, instant.date.month, instant.date.day)
      ⟨[instant.hourOfDay, instant.minuteOfHour, instant.secondOfMinute], instant.microsecond,
        false⟩ (some 0) = .ok (.ofInstant instant) := by
  have noHour : ¬23 < instant.hourOfDay := by
    have bound := instant.hourOfDay_lt
    omega
  have noMinute : ¬59 < instant.minuteOfHour := by
    have bound := instant.minuteOfHour_lt
    omega
  have noSecond : ¬59 < instant.secondOfMinute := by
    have bound := instant.secondOfMinute_lt
    omega
  have checked : Time.Clock.check ⟨[instant.hourOfDay, instant.minuteOfHour,
      instant.secondOfMinute], instant.microsecond, false⟩ = .ok instant.timeOfDay := by
    simp [Time.Clock.check, Time.Clock.field, Time.Clock.seconds, noHour, noMinute, noSecond,
      timeOfDay_eq]
  exact Time.assemble_eq (by decide) (Time.Date.make_ofDays instant.day_lt) checked
    instant.at?_date

/-- What was written is read as the same instant, in UTC. -/
theorem readStamp_text : Time.readStamp instant.text = .ok (.ofInstant instant) := by
  have length := Time.dayLength_writtenDay instant.date.year instant.date.month instant.date.day
    'T' (Time.writtenTime instant.hourOfDay instant.minuteOfHour instant.secondOfMinute
      instant.microsecond ++ Time.writtenZone)
  have day : Time.readDay (Time.writtenDay instant.date.year instant.date.month
      instant.date.day) = some (instant.date.year, instant.date.month, instant.date.day) :=
    Time.readDay_writtenDay
      (Nat.lt_succ_of_le (Time.Date.year_ofDays_le instant.day_lt))
      (Nat.lt_of_le_of_lt (Time.Date.month_ofDays_le _) (by decide))
      (Nat.lt_of_le_of_lt (Time.Date.day_ofDays_le _) (by decide))
  have time := Time.readTime_written (Nat.lt_trans instant.hourOfDay_lt (by decide))
    (Nat.lt_trans instant.minuteOfHour_lt (by decide))
    (Nat.lt_trans instant.secondOfMinute_lt (by decide)) instant.microsecond_lt
  have front : (Time.writtenDay instant.date.year instant.date.month instant.date.day ++
      'T' :: (Time.writtenTime instant.hourOfDay instant.minuteOfHour instant.secondOfMinute
        instant.microsecond ++ Time.writtenZone)).take 10 =
      Time.writtenDay instant.date.year instant.date.month instant.date.day := List.take_left' rfl
  have behind : (Time.writtenDay instant.date.year instant.date.month instant.date.day ++
      'T' :: (Time.writtenTime instant.hourOfDay instant.minuteOfHour instant.secondOfMinute
        instant.microsecond ++ Time.writtenZone)).drop 11 =
      Time.writtenTime instant.hourOfDay instant.minuteOfHour instant.secondOfMinute
        instant.microsecond ++ Time.writtenZone := rfl
  have long : 10 < (Time.writtenDay instant.date.year instant.date.month instant.date.day ++
      'T' :: (Time.writtenTime instant.hourOfDay instant.minuteOfHour instant.secondOfMinute
        instant.microsecond ++ Time.writtenZone)).length := by
    simp only [Time.writtenDay, List.length_append, List.length_cons, Time.length_digits]
    omega
  rw [Time.readStamp, instant.text_toList]
  simp only [length, front, behind, day, time]
  rw [if_neg (by omega), if_neg (by omega)]
  exact instant.assemble_text

/-- A stored instant is read back. -/
theorem ofText_text : Stamp.ofText instant.text = .ok (.ofInstant instant) := by
  rw [Stamp.ofText, readStamp_text]
  rfl

end Instant
end Triage
