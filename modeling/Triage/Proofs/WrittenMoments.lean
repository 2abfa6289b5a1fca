import Mathlib.Data.String.Basic
import Triage.Field.Moment
import Triage.Proofs.Written

namespace Triage

/-!
# Written moments

Every number of a written instant has its fixed width, and the larger units stand in front of the
smaller ones.  So texts of instants in UTC are ordered as the instants are.  The fraction is the
one part that may be missing: then the sign of the distance from UTC stands where the point would
be, and it comes before the point.

A moment may be given as a text.  Its characters are looked at byte by byte, the day at fixed
places, then the time of day, and last the distance from UTC.  A written instant has only plain
characters, so its bytes are its characters, and each piece is found where it was written: what
comes out is the same instant.
-/

namespace Time

/-! ## Numbers of a fixed width -/

theorem digitChar_lt {m n : Nat} (small : n < 10) (less : m < n) : m.digitChar < n.digitChar := by
  have each : forall (n : Fin 10) (m : Fin n), (m : Nat).digitChar < (n : Nat).digitChar := by
    decide
  exact each ⟨n, small⟩ ⟨m, less⟩

/-- Of two numbers with the same number of digits, the first digits that differ decide. -/
theorem digits_append_lt {width m n : Nat} (narrow : n < 10 ^ width) {first second : List Char}
    (less : m < n ∨ m = n ∧ first < second) :
    digits width m ++ first < digits width n ++ second := by
  rcases less with smaller | ⟨rfl, behind⟩
  · induction width generalizing m n first second with
    | zero => omega
    | succ width inductionHypothesis =>
        have shorter : n / 10 < 10 ^ width := by
          rw [Nat.pow_succ] at narrow
          omega
        rw [digits, digits, List.append_assoc, List.append_assoc]
        by_cases front : m / 10 < n / 10
        · exact inductionHypothesis shorter front
        · have same : m / 10 = n / 10 := by omega
          have last : m % 10 < n % 10 := by omega
          rw [same]
          exact List.append_left_lt (List.cons_lt_cons_iff.mpr
            (Or.inl (digitChar_lt (Nat.mod_lt n (by decide)) last)))
  · exact List.append_left_lt behind

theorem cons_lt {c : Char} {first second : List Char} (less : first < second) :
    c :: first < c :: second := List.cons_lt_cons_iff.mpr (Or.inr ⟨rfl, less⟩)

/-! ## Days -/

/-- A quotient grows where the next number is a multiple. -/
private theorem next_div (past divisor : Nat) :
    (past + 1) / divisor = past / divisor + if (past + 1) % divisor = 0 then 1 else 0 := by
  rw [Nat.succ_div]
  simp only [Nat.dvd_iff_mod_eq_zero]

theorem daysBeforeYear_succ {year : Nat} (counted : 1 ≤ year) :
    daysBeforeYear (year + 1) = daysBeforeYear year + daysInYear year := by
  rcases Nat.exists_eq_add_of_le' counted with ⟨past, rfl⟩
  have quarters := next_div past 4
  have hundreds := next_div past 100
  have wholes := next_div past 400
  have fewer : past / 100 ≤ past / 4 := Nat.div_le_div_left (by decide) (by decide)
  simp only [daysBeforeYear, daysInYear, isLeap, Nat.add_sub_cancel, quarters, hundreds, wholes,
    Bool.and_eq_true, Bool.or_eq_true, beq_iff_eq, bne_iff_ne]
  by_cases fourth : (past + 1) % 4 = 0
  · by_cases hundredth : (past + 1) % 100 = 0
    · by_cases whole : (past + 1) % 400 = 0 <;> simp [fourth, hundredth, whole] <;> omega
    · have partly : (past + 1) % 400 ≠ 0 := by omega
      simp [fourth, hundredth, partly]
      omega
  · have noHundred : (past + 1) % 100 ≠ 0 := by omega
    have partly : (past + 1) % 400 ≠ 0 := by omega
    simp [fourth, noHundred, partly]
    omega

theorem daysBeforeYear_mono {early late : Nat} (counted : 1 ≤ early) (ordered : early ≤ late) :
    daysBeforeYear early ≤ daysBeforeYear late := by
  induction late, ordered using Nat.le_induction with
  | base => exact Nat.le_refl _
  | succ late reached inductionHypothesis =>
      rw [daysBeforeYear_succ (Nat.le_trans counted reached)]
      exact Nat.le_add_right_of_le inductionHypothesis

theorem daysBeforeMonth_mono (year : Nat) {early late : Nat} (counted : 1 ≤ early)
    (ordered : early ≤ late) : daysBeforeMonth year early ≤ daysBeforeMonth year late := by
  induction late, ordered using Nat.le_induction with
  | base => exact Nat.le_refl _
  | succ late reached inductionHypothesis =>
      rw [daysBeforeMonth_succ year late (Nat.le_trans counted reached)]
      exact Nat.le_add_right_of_le inductionHypothesis

/-- Days come by year, then by month, then by day of the month. -/
theorem Date.ofDays_lt {early late : Nat} (less : early < late) :
    (Date.ofDays early).year < (Date.ofDays late).year ∨
      (Date.ofDays early).year = (Date.ofDays late).year ∧
        ((Date.ofDays early).month < (Date.ofDays late).month ∨
          (Date.ofDays early).month = (Date.ofDays late).month ∧
            (Date.ofDays early).day < (Date.ofDays late).day) := by
  have earlyYear := yearOf_spec early
  have lateYear := yearOf_spec late
  have earlyMonth := monthOf_of_lt earlyYear.2.2
  have lateMonth := monthOf_of_lt lateYear.2.2
  simp only [Date.ofDays_eq]
  rcases Nat.lt_trichotomy (yearOf early).1 (yearOf late).1 with before | same | after
  · exact Or.inl before
  · rw [same] at earlyYear earlyMonth ⊢
    refine Or.inr ⟨rfl, ?_⟩
    rcases Nat.lt_trichotomy (monthOf (yearOf late).1 11 1 (yearOf early).2).1
      (monthOf (yearOf late).1 11 1 (yearOf late).2).1 with before | same | after
    · exact Or.inl before
    · rw [same] at earlyMonth
      refine Or.inr ⟨same, ?_⟩
      omega
    · have next := daysBeforeMonth_succ (yearOf late).1 _ lateMonth.2.1
      have reached := daysBeforeMonth_mono (yearOf late).1 (Nat.le_add_left 1 _) after
      omega
  · have next := daysBeforeYear_succ lateYear.2.1
    have reached : daysBeforeYear ((yearOf late).1 + 1) ≤ daysBeforeYear (yearOf early).1 :=
      daysBeforeYear_mono (Nat.le_add_left 1 _) after
    omega

theorem writtenDay_append_lt {year month day laterYear laterMonth laterDay : Nat}
    (yearly : laterYear < 10 ^ 4) (monthly : laterMonth < 10 ^ 2) (daily : laterDay < 10 ^ 2)
    {first second : List Char}
    (less : year < laterYear ∨ year = laterYear ∧ (month < laterMonth ∨ month = laterMonth ∧
      (day < laterDay ∨ day = laterDay ∧ first < second))) :
    writtenDay year month day ++ first < writtenDay laterYear laterMonth laterDay ++ second := by
  simp only [writtenDay, List.append_assoc, List.cons_append]
  refine digits_append_lt yearly (less.imp_right (And.imp_right fun later => cons_lt ?_))
  refine digits_append_lt monthly (later.imp_right (And.imp_right fun later => cons_lt ?_))
  exact digits_append_lt daily later

/-! ## Times of day -/

/-- The characters of a fraction of a second, none when it is zero. -/
theorem fraction_append_lt {microsecond later : Nat} (small : later < 10 ^ 6)
    (less : microsecond < later) (first second : List Char) :
    (if microsecond = 0 then [] else '.' :: digits 6 microsecond) ++ '+' :: first <
      (if later = 0 then [] else '.' :: digits 6 later) ++ '+' :: second := by
  have point : ¬later = 0 := by omega
  rw [if_neg point, List.cons_append]
  by_cases whole : microsecond = 0
  · rw [if_pos whole, List.nil_append]
    exact List.cons_lt_cons_iff.mpr (Or.inl (by decide))
  · rw [if_neg whole, List.cons_append]
    exact cons_lt (digits_append_lt small (Or.inl less))

theorem writtenTime_append_lt
    {hour minute second microsecond laterHour laterMinute laterSecond laterMicro : Nat}
    (hourly : laterHour < 10 ^ 2) (minutely : laterMinute < 10 ^ 2)
    (secondly : laterSecond < 10 ^ 2) (small : laterMicro < 10 ^ 6)
    (less : hour < laterHour ∨ hour = laterHour ∧ (minute < laterMinute ∨ minute = laterMinute ∧
      (second < laterSecond ∨ second = laterSecond ∧ microsecond < laterMicro))) :
    writtenTime hour minute second microsecond ++ writtenZone <
      writtenTime laterHour laterMinute laterSecond laterMicro ++ writtenZone := by
  simp only [writtenTime, List.append_assoc, List.cons_append]
  refine digits_append_lt hourly (less.imp_right (And.imp_right fun later => cons_lt ?_))
  refine digits_append_lt minutely (later.imp_right (And.imp_right fun later => cons_lt ?_))
  refine digits_append_lt secondly (later.imp_right (And.imp_right fun later => ?_))
  exact fraction_append_lt small later _ _

end Time

namespace Instant

/-- Times of a day come by hour, then by minute, by second and by fraction. -/
theorem timeOfDay_lt {early late : Instant} (less : early.timeOfDay < late.timeOfDay) :
    early.hourOfDay < late.hourOfDay ∨ early.hourOfDay = late.hourOfDay ∧
      (early.minuteOfHour < late.minuteOfHour ∨ early.minuteOfHour = late.minuteOfHour ∧
        (early.secondOfMinute < late.secondOfMinute ∨
          early.secondOfMinute = late.secondOfMinute ∧
            early.microsecond < late.microsecond)) := by
  have earlyParts := early.timeOfDay_eq
  have lateParts := late.timeOfDay_eq
  have earlyMinute := early.minuteOfHour_lt
  have earlySecond := early.secondOfMinute_lt
  have earlyMicro := early.microsecond_lt
  have lateMinute := late.minuteOfHour_lt
  have lateSecond := late.secondOfMinute_lt
  have lateMicro := late.microsecond_lt
  simp only [Time.second] at earlyParts lateParts
  omega

theorem text_lt {early late : Instant} (less : early.ticks < late.ticks) :
    early.text < late.text := by
  rw [String.lt_iff_toList_lt, text_toList, text_toList]
  have yearly := Nat.lt_succ_of_le (Time.Date.year_ofDays_le late.day_lt)
  have monthly := Nat.lt_of_le_of_lt (Time.Date.month_ofDays_le (late.ticks / Time.day))
    (show 12 < 10 ^ 2 by decide)
  have daily := Nat.lt_of_le_of_lt (Time.Date.day_ofDays_le (late.ticks / Time.day))
    (show 31 < 10 ^ 2 by decide)
  refine Time.writtenDay_append_lt yearly monthly daily ?_
  by_cases before : early.ticks / Time.day < late.ticks / Time.day
  · have apart := Time.Date.ofDays_lt before
    simp only [date]
    omega
  · have ordered : early.ticks / Time.day ≤ late.ticks / Time.day :=
      Nat.div_le_div_right (Nat.le_of_lt less)
    have same : early.ticks / Time.day = late.ticks / Time.day := by omega
    have sooner : early.timeOfDay < late.timeOfDay := by
      simp only [timeOfDay, Time.day, Time.hour, Time.second] at same ⊢
      omega
    have day : early.date = late.date := congrArg Time.Date.ofDays same
    rw [day]
    refine Or.inr ⟨rfl, Or.inr ⟨rfl, Or.inr ⟨rfl, Time.cons_lt ?_⟩⟩⟩
    exact Time.writtenTime_append_lt (Nat.lt_trans late.hourOfDay_lt (by decide))
      (Nat.lt_trans late.minuteOfHour_lt (by decide))
      (Nat.lt_trans late.secondOfMinute_lt (by decide)) late.microsecond_lt (timeOfDay_lt sooner)

/-- Texts of instants in UTC are ordered as the instants are. -/
theorem compare_text (a b : Instant) : compare a.text b.text = compare a b := by
  rcases Nat.lt_trichotomy a.ticks b.ticks with before | same | after
  · have less : compare a b = .lt := Nat.compare_eq_lt.mpr before
    rw [less, compare_lt_iff_lt]
    exact text_lt before
  · rw [Instant.ext same]
    have equal : compare b b = .eq := Nat.compare_eq_eq.mpr rfl
    rw [equal, compare_eq_iff_eq]
  · have greater : compare a b = .gt := Nat.compare_eq_gt.mpr after
    rw [greater, compare_gt_iff_gt]
    exact text_lt after

end Instant

/-- Sorting commutes with a map along which two orders agree. -/
theorem map_mergeSort_isLE {A B : Type} {order : A -> A -> Ordering} {other : B -> B -> Ordering}
    {image : A -> B} {items : List A}
    (alike : forall a, a ∈ items -> forall b, b ∈ items -> order a b = other (image a) (image b)) :
    (items.mergeSort fun a b => (order a b).isLE).map image =
      (items.map image).mergeSort fun a b => (other a b).isLE :=
  List.map_mergeSort fun a first b second => congrArg Ordering.isLE (alike a first b second)

namespace Field

/-! ## Bytes -/

/-- A character below the 128th is a single byte. -/
theorem utf8EncodeChar_of_lt {c : Char} (plain : c.toNat < 128) :
    ((String.utf8EncodeChar c).map fun b => Char.ofNat b.toNat) = [c] := by
  have single : c.utf8Size = 1 := by
    have small : c.val ≤ 0x7f := by
      rw [UInt32.le_iff_toNat_le]
      exact Nat.lt_succ_iff.mp plain
    simp [Char.utf8Size, small]
  rw [String.utf8EncodeChar_eq_singleton single, List.map_singleton]
  have small : c.val.toNat < 256 := Nat.lt_trans plain (by decide)
  have same : c.val.toUInt8.toNat = c.toNat := by
    rw [UInt32.toNat_toUInt8, Nat.mod_eq_of_lt small]
    rfl
  rw [same, Char.ofNat_toNat]

/-- A plain text is its characters, byte for byte. -/
theorem byteChars_eq {s : String} (plain : forall c, c ∈ s.toList -> c.toNat < 128) :
    byteChars s = s.toList := by
  rw [byteChars]
  generalize s.toList = cs at plain
  induction cs with
  | nil => rfl
  | cons c rest inductionHypothesis =>
      rw [List.flatMap_cons, utf8EncodeChar_of_lt (plain c List.mem_cons_self),
        inductionHypothesis fun other member => plain other (List.mem_cons_of_mem c member)]
      rfl

/-! ## Days and times -/

/-- Two digit characters have the value that they write. -/
theorem twoDigits?_of_getElem? {cs : List Char} {position m n : Nat}
    (tens : cs[position]? = some (m % 10).digitChar)
    (ones : cs[position + 1]? = some (n % 10).digitChar) :
    twoDigits? cs position = some (10 * (m % 10) + n % 10) := by
  rw [twoDigits?, tens, ones]
  simp only [Option.bind_some, Time.plainDigit?_digitChar, Option.bind_eq_bind]
  rfl

/-- A day of the calendar has a year, a month and a day within their bounds. -/
theorem inside_of_make {year month day : Nat} {date : Time.Date}
    (made : Time.Date.make year month day = .ok date) :
    (1 ≤ year ∧ year ≤ 9999) ∧ (1 ≤ month ∧ month ≤ 12) ∧
      (1 ≤ day ∧ day ≤ Time.daysInMonth year month) ∧ date = ⟨year, month, day⟩ := by
  unfold Time.Date.make at made
  split at made
  · cases made
  split at made
  · cases made
  split at made
  · cases made
  cases made
  rename_i inYear inMonth inDays
  simp only [Bool.or_eq_true, decide_eq_true_eq, not_or, Nat.not_lt] at inYear inMonth inDays
  exact ⟨inYear, inMonth, inDays, rfl⟩

theorem daysInMonth_le (year month : Nat) : Time.daysInMonth year month ≤ 31 := by
  unfold Time.daysInMonth
  split
  · split <;> decide
  split <;> decide

open Time in
/-- A written day is found in front of whatever follows it. -/
theorem dayInFront_writtenDay {year month day : Nat} {date : Time.Date} (rest : List Char)
    (made : Time.Date.make year month day = .ok date) :
    dayInFront (Time.writtenDay year month day ++ rest) = .ok date := by
  rcases inside_of_make made with ⟨yearly, monthly, daily, rfl⟩
  have short := daysInMonth_le year month
  have long : ¬(writtenDay year month day ++ rest).length < 10 := by
    simp only [writtenDay, List.length_append, List.length_cons, length_digits]
    omega
  have century : twoDigits? (writtenDay year month day ++ rest) 0 = some (year / 100) := by
    rw [twoDigits?_of_getElem? (m := year / 10 / 10 / 10) (n := year / 10 / 10) rfl rfl]
    congr 1
    omega
  have years : twoDigits? (writtenDay year month day ++ rest) 2 = some (year % 100) := by
    rw [twoDigits?_of_getElem? (m := year / 10) (n := year) rfl rfl]
    congr 1
    omega
  have monthRead : twoDigits? (writtenDay year month day ++ rest) 5 = some month := by
    rw [twoDigits?_of_getElem? (m := month / 10) (n := month) rfl rfl]
    congr 1
    omega
  have dayRead : twoDigits? (writtenDay year month day ++ rest) 8 = some day := by
    rw [twoDigits?_of_getElem? (m := day / 10) (n := day) rfl rfl]
    congr 1
    omega
  have first : (writtenDay year month day ++ rest)[4]? = some '-' := rfl
  have second : (writtenDay year month day ++ rest)[7]? = some '-' := rfl
  have together : 100 * (year / 100) + year % 100 = year := by omega
  have inYear : (month < 1 || 12 < month) = false := by simp; omega
  have inMonth : (day < 1 || Time.daysInMonth year month < day) = false := by simp; omega
  simp only [dayInFront, long, if_false, century, years, first, second, monthRead, dayRead,
    together, inYear, inMonth, bne_self_eq_false, Bool.false_eq_true]

/-- Six digits in front of a distance from UTC are a fraction as they are. -/
theorem fractionOf?_digits (microsecond : Nat) (small : microsecond < 10 ^ 6) :
    fractionOf? (Time.digits 6 microsecond ++ Time.writtenZone) =
      some (microsecond, Time.writtenZone) := by
  have each : forall c, c ∈ Time.digits 6 microsecond -> (Text.plainDigit? c).isSome = true := by
    intro c member
    rcases Time.mem_digits member with ⟨m, rfl⟩
    rw [Time.plainDigit?_digitChar]
    rfl
  have run : (Time.digits 6 microsecond ++ Time.writtenZone).takeWhile
      (fun c => (Text.plainDigit? c).isSome) = Time.digits 6 microsecond := by
    rw [List.takeWhile_append_of_pos each]
    exact List.append_nil _
  have long := Time.length_digits 6 microsecond
  have all : (Time.digits 6 microsecond).take 6 = Time.digits 6 microsecond :=
    List.take_of_length_le (Nat.le_of_eq long)
  have some_ : (Time.digits 6 microsecond).isEmpty = false := rfl
  have behind : (Time.digits 6 microsecond ++ Time.writtenZone).drop 6 = Time.writtenZone :=
    List.drop_left' long
  have value : Number.digitsValue (Time.digits 6 microsecond) = microsecond :=
    (Time.filterMap_digits 6 microsecond small).2
  simp only [fractionOf?, run, all, long, some_, behind, value, Nat.sub_self, Bool.false_eq_true,
    if_false]
  rw [show Number.tenTo 0 = 1 from rfl, Nat.mul_one]

/-- A written time of day is read in front of a distance from UTC. -/
theorem timeInFront_writtenTime {hour minute second microsecond : Nat} (hourly : hour < 24)
    (minutely : minute < 60) (secondly : second < 60) (small : microsecond < 10 ^ 6) :
    timeInFront (Time.writtenTime hour minute second microsecond ++ Time.writtenZone) =
      some ((3600 * hour + 60 * minute + second) * Time.second + microsecond,
        Time.writtenZone) := by
  generalize written : Time.writtenTime hour minute second microsecond ++ Time.writtenZone = cs
  have hours : twoDigits? cs 0 = some hour := by
    rw [<- written, twoDigits?_of_getElem? (m := hour / 10) (n := hour) rfl rfl]
    congr 1
    omega
  have minutes : twoDigits? cs 3 = some minute := by
    rw [<- written, twoDigits?_of_getElem? (m := minute / 10) (n := minute) rfl rfl]
    congr 1
    omega
  have seconds : twoDigits? (cs.drop 5) 1 = some second := by
    rw [<- written, twoDigits?_of_getElem? (m := second / 10) (n := second) rfl rfl]
    congr 1
    omega
  have colon : cs[2]? = some ':' := by rw [<- written]; rfl
  have another : (cs.drop 5).head? = some ':' := by rw [<- written]; rfl
  have behind : (cs.drop 5).drop 3 = (if microsecond = 0 then [] else
      '.' :: Time.digits 6 microsecond) ++ Time.writtenZone := by rw [<- written]; rfl
  have inHour : (decide (hour > 23) || decide (minute > 59)) = false := by simp; omega
  have inMinute : ¬second > 59 := by omega
  have total : hour * Time.hour + minute * 60 * Time.second + second * Time.second =
      (3600 * hour + 60 * minute + second) * Time.second := by
    simp only [Time.hour, Time.second]
    omega
  simp only [timeInFront, hours, minutes, seconds, colon, another, behind, inHour, inMinute, total,
    beq_self_eq_true, if_true, if_false, Option.bind_eq_bind, Option.bind_some,
    Bool.false_eq_true]
  by_cases whole : microsecond = 0
  · simp [whole, Time.writtenZone]
  · simp only [whole, if_false, List.cons_append, List.head?_cons, beq_self_eq_true, Bool.true_or,
      if_true, List.drop_succ_cons, List.drop_zero]
    rw [fractionOf?_digits microsecond small]
    rfl

theorem offsetAtEnd_writtenZone : offsetAtEnd Time.writtenZone = some (some 0) := by
  decide

/-! ## Instants -/

theorem plain_digits {width n : Nat} {c : Char} (member : c ∈ Time.digits width n) :
    c.toNat < 128 := by
  have each : forall d : Fin 10, (d : Nat).digitChar.toNat < 128 := by decide
  rcases Time.mem_digits member with ⟨m, rfl⟩
  exact each ⟨m % 10, Nat.mod_lt m (by decide)⟩

theorem plain_text (instant : Instant) : forall c, c ∈ instant.text.toList -> c.toNat < 128 := by
  have number (width n : Nat) : (forall c, c ∈ Time.digits width n -> c.toNat < 128) = True :=
    eq_true fun c => plain_digits
  rw [instant.text_toList]
  by_cases whole : instant.microsecond = 0 <;>
    simp [Time.writtenDay, Time.writtenTime, Time.writtenZone, whole, or_imp, forall_and, number]

theorem writtenStamp?_written {year month day hour minute second microsecond : Nat}
    {date : Time.Date} {wall : Instant} (made : Time.Date.make year month day = .ok date)
    (hourly : hour < 24) (minutely : minute < 60) (secondly : second < 60)
    (small : microsecond < 10 ^ 6) (found : Instant.at? date
      ((3600 * hour + 60 * minute + second) * Time.second + microsecond) = some wall) :
    writtenStamp? (Time.writtenDay year month day ++
      'T' :: (Time.writtenTime hour minute second microsecond ++ Time.writtenZone)) =
        some (.good ⟨wall, some 0⟩) := by
  have time := timeInFront_writtenTime hourly minutely secondly small
  have dated : (date.year == 0) = false := by
    rcases inside_of_make made with ⟨yearly, _, _, rfl⟩
    simp
    omega
  generalize Time.writtenTime hour minute second microsecond ++ Time.writtenZone = rest at time
  have front := dayInFront_writtenDay ('T' :: rest) made
  have separator : (Time.writtenDay year month day ++ 'T' :: rest)[10]? = some 'T' := rfl
  have behind : (Time.writtenDay year month day ++ 'T' :: rest).drop 11 = rest := rfl
  have known : ['T', 't', ' ', '_'].contains 'T' = true := rfl
  have stamped : stampOf date ((3600 * hour + 60 * minute + second) * Time.second + microsecond)
      (some 0) = .good ⟨wall, some 0⟩ := by
    simp only [stampOf, dated, found, Bool.false_eq_true, if_false]
  rw [writtenStamp?, front, separator, behind]
  simp only [Except.toOption, Option.bind_eq_bind, Option.bind_some, time,
    offsetAtEnd_writtenZone, stamped, known, if_true, Option.pure_def]

/-- A written instant is checked as that instant. -/
theorem moment_text (instant : Instant) : moment (.text instant.text) = .good instant := by
  have made : Time.Date.make instant.date.year instant.date.month instant.date.day =
      .ok instant.date := Time.Date.make_ofDays instant.day_lt
  have found := instant.at?_date
  rw [<- instant.timeOfDay_eq] at found
  have stamped := writtenStamp?_written made instant.hourOfDay_lt instant.minuteOfHour_lt
    instant.secondOfMinute_lt instant.microsecond_lt found
  rw [<- instant.text_toList, <- byteChars_eq (plain_text instant)] at stamped
  have read : stamp (.text instant.text) = .good (.ofInstant instant) := by
    simp only [stamp, textOf?, stampOfText, stamped]
    rfl
  rw [moment, read, Checked.andThen_good, instantOf, Stamp.toInstant?_ofInstant]

end Field

/-! ## Stamps -/

theorem Instant.text_lt_iff {a b : Instant} : a.text < b.text <-> a.ticks < b.ticks := by
  rw [← compare_lt_iff_lt, Instant.compare_text]
  exact Nat.compare_eq_lt

theorem Instant.text_eq_iff {a b : Instant} : a.text = b.text <-> a.ticks = b.ticks := by
  rw [← compare_eq_iff_eq, Instant.compare_text]
  exact Nat.compare_eq_eq

namespace Stamp

variable {stamp : Stamp} {instant : Instant}

/-- Microseconds from the start of the year 1 in UTC, inside the calendar or outside of it; a stamp
without a distance from UTC shows UTC. -/
def ticks (stamp : Stamp) : Int := stamp.wall.ticks - stamp.offset.getD 0

/-- The time of a stamp lies inside the calendar of UTC. -/
def IsInCalendar (stamp : Stamp) : Prop :=
  0 ≤ stamp.ticks ∧ stamp.ticks < (Time.dayCount * Time.day : Nat)

instance (stamp : Stamp) : Decidable stamp.IsInCalendar := inferInstanceAs (Decidable (_ ∧ _))

theorem ticks_of_toInstant? (found : stamp.toInstant? = some instant) :
    (instant.ticks : Int) = stamp.ticks := by
  rcases stamp with ⟨wall, _ | ahead⟩
  · cases found
    exact (Int.sub_zero _).symm
  · simp only [toInstant?, Instant.shift?, Instant.ofTicks?] at found
    split at found
    · split at found
      · next counted =>
        cases found
        exact Int.toNat_of_nonneg counted
      · cases found
    · cases found

/-- A stamp has an instant as soon as its time lies inside the calendar. -/
theorem IsInCalendar.exists_instant (inside : stamp.IsInCalendar) :
    Exists fun instant => stamp.toInstant? = some instant := by
  rcases stamp with ⟨wall, _ | ahead⟩
  · exact ⟨wall, rfl⟩
  · rcases inside with ⟨counted, bounded⟩
    simp only [ticks, Option.getD_some] at counted bounded
    have below : ((wall.ticks : Int) + -ahead).toNat < Time.dayCount * Time.day := by omega
    have nonnegative : 0 ≤ (wall.ticks : Int) + -ahead := by omega
    exact ⟨⟨_, below⟩, (dif_pos below).trans (if_pos nonnegative)⟩

/-- Stamps of all kinds, with a distance from UTC or without, with a fraction of a second or without,
are accepted as moments if their time lies inside the calendar.  The texts of these moments in UTC
are ordered as the stamps are in time, and both ways of reading a text lead back to its moment. -/
theorem stored_order {first second : Stamp} (firstInside : first.IsInCalendar)
    (secondInside : second.IsInCalendar) : Exists fun a => Exists fun b =>
      first.toInstant? = some a ∧ second.toInstant? = some b ∧
      Field.moment (.stamp first) = .good a ∧ Field.moment (.stamp second) = .good b ∧
      (a.text < b.text <-> first.ticks < second.ticks) ∧
      (a.text = b.text <-> first.ticks = second.ticks) ∧
      Field.moment (.text a.text) = .good a ∧
      Exists fun back => Stamp.ofText a.text = .ok back ∧ back.toInstant? = some a := by
  rcases firstInside.exists_instant with ⟨a, early⟩
  rcases secondInside.exists_instant with ⟨b, late⟩
  have accepted {stamp : Stamp} {instant : Instant} (found : stamp.toInstant? = some instant) :
      Field.moment (.stamp stamp) = .good instant := by
    rw [Field.moment, Field.stamp, Field.Checked.andThen_good, Field.instantOf, found]
  refine ⟨a, b, early, late, accepted early, accepted late, ?_, ?_, Field.moment_text a,
    .ofInstant a, a.ofText_text, toInstant?_ofInstant a⟩
  · rw [Instant.text_lt_iff, ← ticks_of_toInstant? early, ← ticks_of_toInstant? late,
      Int.ofNat_lt]
  · rw [Instant.text_eq_iff, ← ticks_of_toInstant? early, ← ticks_of_toInstant? late,
      Int.natCast_inj]

end Stamp

namespace Sample

/-- Shown two hours ahead of UTC: half a second after the tenth hour of the first day of all. -/
def ahead : Stamp := ⟨⟨12 * Time.hour + 500000, by decide⟩, some (2 * Time.hour : Nat)⟩

/-- Shown without a distance from UTC: the tenth hour of the same day. -/
def bare : Stamp := ⟨⟨10 * Time.hour, by decide⟩, none⟩

end Sample

/-- The stamp without a fraction comes first, although it shows the same hour in UTC. -/
theorem Stamp.stored_order_of_sample : Sample.bare.IsInCalendar ∧ Sample.ahead.IsInCalendar ∧
    Exists fun a => Exists fun b => Sample.bare.toInstant? = some a ∧
      Sample.ahead.toInstant? = some b ∧ a.text < b.text := by
  have bareInside : Sample.bare.IsInCalendar := by decide
  have aheadInside : Sample.ahead.IsInCalendar := by decide
  refine ⟨bareInside, aheadInside, ?_⟩
  rcases Stamp.stored_order bareInside aheadInside with ⟨a, b, early, late, _, _, order, _⟩
  exact ⟨a, b, early, late, order.mpr (by decide)⟩

end Triage
