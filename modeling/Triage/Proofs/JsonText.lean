import Mathlib.Data.Fintype.Basic
import Mathlib.Data.List.Basic
import Mathlib.Tactic.FinCases
import Triage.Database.Tables
import Triage.Json.Writer
import Triage.Proofs.Checked

namespace Triage

/-!
# What is written as JSON is read back

A text is written with escapes, and each of them is read as the character that it was written for,
two of them together where a character lies above the first plane.  A whole number is read back as
long as it does not have more digits than are read at all, a list if its items are, and a mapping
if its keys are different texts and its values are read back.  So the columns of conditions and of
actions may hold a value or the text that is written for it: both are read as the same.
-/

namespace Json

/-! ## Characters -/

theorem hexValue?_digitChar {d : Nat} (small : d < 16) : hexValue? d.digitChar = some d := by
  have all : forall d, d < 16 -> hexValue? d.digitChar = some d := by decide
  exact all d small

/-- A number below `0x10000` has four hexadecimal digits. -/
theorem hex_toList {n : Nat} (small : n < 0x10000) : (Text.hex 4 n).toList =
    [(n / 0x1000).digitChar, (n / 0x100 % 16).digitChar, (n / 0x10 % 16).digitChar,
      (n % 16).digitChar] := by
  have lone {m : Nat} (low : m < 16) : Nat.toDigits 16 m = [m.digitChar] :=
    Nat.toDigits_of_lt_base low
  have more {m : Nat} (high : 16 ≤ m) :
      Nat.toDigits 16 m = Nat.toDigits 16 (m / 16) ++ [(m % 16).digitChar] :=
    Nat.toDigits_of_base_le (by decide) high
  have hundreds : n / 16 / 16 = n / 0x100 := Nat.div_div_eq_div_mul n 16 16
  have thousands : n / 0x100 / 16 = n / 0x1000 := Nat.div_div_eq_div_mul n 0x100 16
  have padded {m : Nat} (none_ : m = 0) : m.digitChar = '0' := by rw [none_]; rfl
  rw [Text.hex, String.toList_ofList]
  by_cases one : n < 16
  · rw [lone one, padded (m := n / 0x1000) (by omega), padded (m := n / 0x100 % 16) (by omega),
      padded (m := n / 0x10 % 16) (by omega), Nat.mod_eq_of_lt one]
    rfl
  rw [more (by omega)]
  by_cases two : n / 16 < 16
  · rw [lone two, padded (m := n / 0x1000) (by omega), padded (m := n / 0x100 % 16) (by omega),
      Nat.mod_eq_of_lt two]
    rfl
  rw [more (by omega), hundreds]
  by_cases three : n / 0x100 < 16
  · rw [lone three, padded (m := n / 0x1000) (by omega), Nat.mod_eq_of_lt three]
    rfl
  rw [more (by omega), thousands, lone (by omega)]
  rfl

/-- An escaped unit is read back in front of something. -/
theorem readUnit?_hex {n : Nat} (small : n < 0x10000) {rest : List Char} (more : rest ≠ []) :
    readUnit? ((Text.hex 4 n).toList ++ rest) = some (n, rest) := by
  have value : 16 * (16 * (16 * (n / 0x1000) + n / 0x100 % 16) + n / 0x10 % 16) + n % 16 = n := by
    omega
  have longer : 0 < rest.length := List.length_pos_iff.mpr more
  rw [hex_toList small, readUnit?]
  simp [hexValue?_digitChar (show n / 0x1000 < 16 by omega),
    hexValue?_digitChar (Nat.mod_lt _ (show 0 < 16 by decide)), value, longer]

/-- A unit that is no half of a pair is a character by itself. -/
theorem joinUnits_single {unit : Nat} (whole : unit < 0xD800 ∨ 0xE000 ≤ unit) (rest : List Char) :
    joinUnits unit rest = (Char.ofNat unit, rest) := by
  have none_ : (decide (0xD800 ≤ unit) && decide (unit < 0xE000)) = false := by
    rcases whole with below | above
    · simp [Nat.not_le.mpr below]
    · simp [Nat.not_lt.mpr above]
  have high (low : Nat) : (decide (0xD800 ≤ unit) && decide (unit < 0xDC00) &&
      decide (0xDC00 ≤ low) && decide (low < 0xE000)) = false := by
    rcases whole with below | above
    · simp [Nat.not_le.mpr below]
    · have beyond : 0xDC00 ≤ unit := Nat.le_trans (by decide) above
      simp [Nat.not_lt.mpr beyond]
  unfold joinUnits
  simp only [none_, high]
  split <;> rfl

/-- The two halves of a pair are joined. -/
theorem joinUnits_pair {n : Nat} (small : n < 0x100000) {rest : List Char} (more : rest ≠ []) :
    joinUnits (0xD800 + n / 0x400)
      ("\\u".toList ++ (Text.hex 4 (0xDC00 + n % 0x400)).toList ++ rest) =
        (Char.ofNat (0x10000 + n), rest) := by
  have second := readUnit?_hex (n := 0xDC00 + n % 0x400) (by omega) more
  have halves : (decide (0xD800 ≤ 0xD800 + n / 0x400) && decide (0xD800 + n / 0x400 < 0xDC00) &&
      decide (0xDC00 ≤ 0xDC00 + n % 0x400) && decide (0xDC00 + n % 0x400 < 0xE000)) = true := by
    simp
    omega
  have value : 0x10000 + (0xD800 + n / 0x400 - 0xD800) * 0x400 + (0xDC00 + n % 0x400 - 0xDC00) =
      0x10000 + n := by omega
  show joinUnits _ ('\\' :: 'u' :: ((Text.hex 4 (0xDC00 + n % 0x400)).toList ++ rest)) = _
  unfold joinUnits
  simp only [second, halves, value, if_true]

variable {c : Char} {rest : List Char} {n fuel : Nat}

/-- A short escape is the character that it stands for. -/
theorem readChars_short {e : Char} (known : shortEscape? e = some c) (other : (e == 'u') = false)
    (start fuel : Nat) (rest done : List Char) :
    readChars start (fuel + 1) ('\\' :: e :: rest) done =
      readChars start fuel rest (c :: done) := by
  rw [readChars]
  simp [known, other]

/-- An escaped unit is taken together with the escape that follows. -/
theorem readChars_unit (small : n < 0x10000) (more : rest ≠ []) (start fuel : Nat)
    (done : List Char) : readChars start (fuel + 1) ((unitEscape n).toList ++ rest) done =
      readChars start fuel (joinUnits n rest).2 ((joinUnits n rest).1 :: done) := by
  have spelled : (unitEscape n).toList ++ rest =
      '\\' :: 'u' :: ((Text.hex 4 n).toList ++ rest) := by
    rw [unitEscape, String.toList_append]
    rfl
  rw [spelled, readChars]
  simp [readUnit?_hex small more]

/-- Two escaped units that are the halves of a pair are one character. -/
theorem readChars_pair (small : n < 0x100000) (more : rest ≠ []) (start fuel : Nat)
    (done : List Char) :
    readChars start (fuel + 1) ((unitEscape (0xD800 + n / 0x400) ++
      unitEscape (0xDC00 + n % 0x400)).toList ++ rest) done =
        readChars start fuel rest (Char.ofNat (0x10000 + n) :: done) := by
  have high : 0xD800 + n / 0x400 < 0x10000 := by omega
  have later : (unitEscape (0xDC00 + n % 0x400)).toList ++ rest ≠ [] :=
    List.append_ne_nil_of_right_ne_nil _ more
  have pair := joinUnits_pair small more
  rw [<- String.toList_append, <- unitEscape] at pair
  rw [String.toList_append, List.append_assoc, readChars_unit high later, pair]

/-- A character that is not escaped is taken as it is. -/
theorem readChars_plain (quote : (c == '"') = false) (slash : (c == '\\') = false)
    (high : 0x20 ≤ c.toNat) (start fuel : Nat) (rest done : List Char) :
    readChars start (fuel + 1) (c :: rest) done = readChars start fuel rest (c :: done) := by
  rw [readChars.eq_def]
  simp [quote, slash, Nat.not_lt.mpr high]

theorem toNat_valid (c : Char) :
    c.toNat < 0xD800 ∨ 0xE000 ≤ c.toNat ∧ c.toNat < 0x110000 := by
  have valid : c.toNat < 0xD800 ∨ 0xDFFF < c.toNat ∧ c.toNat < 0x110000 := c.valid
  omega

/-- A character is read back from its spelling. -/
theorem readChars_char (c : Char) (more : rest ≠ []) (start fuel : Nat) (done : List Char) :
    readChars start (fuel + 1) ((charText c).toList ++ rest) done =
      readChars start fuel rest (c :: done) := by
  simp only [charText]
  split_ifs with quote slash line back tab eight form plain small
  · exact beq_iff_eq.mp quote ▸ readChars_short rfl rfl start fuel rest done
  · exact beq_iff_eq.mp slash ▸ readChars_short rfl rfl start fuel rest done
  · exact beq_iff_eq.mp line ▸ readChars_short rfl rfl start fuel rest done
  · exact beq_iff_eq.mp back ▸ readChars_short rfl rfl start fuel rest done
  · exact beq_iff_eq.mp tab ▸ readChars_short rfl rfl start fuel rest done
  · exact beq_iff_eq.mp eight ▸ readChars_short rfl rfl start fuel rest done
  · exact beq_iff_eq.mp form ▸ readChars_short rfl rfl start fuel rest done
  · rw [Bool.and_eq_true, decide_eq_true_eq] at plain
    have spelled : c.toString.toList ++ rest = c :: rest := by
      rw [Char.toString, String.toList_singleton, List.singleton_append]
    rw [spelled]
    exact readChars_plain (Bool.eq_false_iff.mpr quote) (Bool.eq_false_iff.mpr slash) plain.1
      start fuel rest done
  · rw [readChars_unit small more, joinUnits_single ((toNat_valid c).imp_right And.left),
      Char.ofNat_toNat]
  · rcases Nat.exists_eq_add_of_le (Nat.not_lt.mp small) with ⟨n, same⟩
    have bounded : n < 0x100000 := by
      have valid := toNat_valid c
      omega
    rw [same, Nat.add_sub_cancel_left, readChars_pair bounded more, <- same, Char.ofNat_toNat]

/-! ## Texts -/

/-- The spelling of characters. -/
def spelled (cs : List Char) : List Char := cs.flatMap fun c => (charText c).toList

theorem stringText_toList (s : String) :
    (stringText s).toList = '"' :: (spelled s.toList ++ ['"']) := by
  rw [stringText, String.toList_append, String.toList_append, String.toList_join, List.flatMap_map]
  rfl

theorem charText_ne_nil (c : Char) : (charText c).toList ≠ [] := by
  have unit (n : Nat) : (unitEscape n).toList ≠ [] := by simp [unitEscape]
  simp only [charText]
  split_ifs
  iterate 8 · simp
  · exact unit _
  · rw [String.toList_append]
    exact List.append_ne_nil_of_left_ne_nil (unit _) _

theorem length_le_spelled (cs : List Char) : cs.length ≤ (spelled cs).length := by
  induction cs with
  | nil => exact Nat.le_refl 0
  | cons c cs inductionHypothesis =>
      have some_ : 0 < (charText c).toList.length := List.length_pos_iff.mpr (charText_ne_nil c)
      rw [spelled, List.flatMap_cons, List.length_append, <- spelled, List.length_cons]
      omega

/-- A quote ends a text. -/
theorem readChars_quote (start fuel : Nat) (rest done : List Char) :
    readChars start (fuel + 1) ('"' :: rest) done = .ok (String.ofList done.reverse, rest) := by
  rw [readChars.eq_def]
  rfl

theorem readChars_spelled {cs : List Char} (enough : cs.length < fuel) (start : Nat)
    (rest done : List Char) : readChars start fuel (spelled cs ++ '"' :: rest) done =
      .ok (String.ofList (done.reverse ++ cs), rest) := by
  induction cs generalizing fuel done with
  | nil =>
      rcases Nat.exists_eq_add_one.mpr enough with ⟨fuel, rfl⟩
      rw [List.append_nil]
      exact readChars_quote start fuel rest done
  | cons c cs inductionHypothesis =>
      rcases Nat.exists_eq_add_one.mpr (Nat.zero_lt_of_lt enough) with ⟨fuel, rfl⟩
      have more : spelled cs ++ '"' :: rest ≠ [] := by simp
      rw [spelled, List.flatMap_cons, List.append_assoc, <- spelled, readChars_char c more,
        inductionHypothesis (Nat.lt_of_succ_lt_succ enough), List.reverse_cons, List.append_assoc]
      rfl

/-- A text is read back whatever follows its closing quote. -/
theorem readString_spelled (s : String) (rest : List Char) :
    readString (spelled s.toList ++ '"' :: rest) = .ok (s, rest) := by
  have longer := length_le_spelled s.toList
  rw [readString, readChars_spelled (by rw [List.length_append]; omega), List.reverse_nil,
    List.nil_append, String.ofList_toList]

/-! ## Whole numbers -/

/-- The digits of a whole number. -/
def digitsOf (n : Int) : List Char := Nat.toDigits 10 n.natAbs

/-- The sign in front of a whole number. -/
def signOf (n : Int) : List Char := if n < 0 then ['-'] else []

theorem toString_toList (n : Int) : (toString n).toList = signOf n ++ digitsOf n := by
  rw [Int.toString_eq_repr, Int.repr_eq_if, signOf, digitsOf]
  by_cases nonneg : 0 ≤ n
  · have same : n.toNat = n.natAbs := by omega
    rw [if_pos nonneg, if_neg (Int.not_lt.mpr nonneg), Nat.toList_repr, same, List.nil_append]
  · have same : (-n).toNat = n.natAbs := by omega
    rw [if_neg nonneg, if_pos (Int.not_le.mp nonneg), String.toList_append, Nat.toList_repr, same]
    rfl

theorem isDigit_of_mem {m : Int} (member : c ∈ digitsOf m) : c.isDigit = true :=
  Nat.isDigit_of_mem_toDigits (by decide) (by decide) member

theorem exists_digitChar (digit : c.isDigit = true) : Exists fun d : Fin 10 =>
    c = (d : Nat).digitChar := by
  have each : forall d : Fin 10, Char.ofNat (48 + d) = (d : Nat).digitChar := by decide
  rw [Char.isDigit, Bool.and_eq_true, decide_eq_true_eq, decide_eq_true_eq] at digit
  have low : 48 ≤ c.toNat := digit.1
  have high : c.toNat ≤ 57 := digit.2
  refine ⟨⟨c.toNat - 48, by omega⟩, ?_⟩
  have value : 48 + (c.toNat - 48) = c.toNat := by omega
  rw [<- each, value, Char.ofNat_toNat]

theorem plainDigit?_of_isDigit (digit : c.isDigit = true) :
    Text.plainDigit? c = some (c.toNat - '0'.toNat) := by
  rcases exists_digitChar digit with ⟨d, rfl⟩
  revert d
  decide

/-- Digits write the number that they are the digits of. -/
theorem digitsValue_digitsOf (m : Int) : Number.digitsValue (digitsOf m) = m.natAbs := by
  have value (cs : List Char) (digits : forall c, c ∈ cs -> c.isDigit = true) (start : Nat) :
      (cs.filterMap Text.plainDigit?).foldl (fun value d => 10 * value + d) start =
        Nat.ofDigitChars 10 cs start := by
    induction cs generalizing start with
    | nil => rfl
    | cons c cs inductionHypothesis =>
        have first := plainDigit?_of_isDigit (digits c List.mem_cons_self)
        rw [List.filterMap_cons_some first, List.foldl_cons, inductionHypothesis fun other member =>
          digits other (List.mem_cons_of_mem c member)]
        rfl
  exact (value _ (fun c member => isDigit_of_mem member) 0).trans Nat.ofDigitChars_ten_toDigits

theorem dropUnderscores_of_notMem {cs : List Char} (none_ : '_' ∉ cs) (after : Bool) :
    Number.dropUnderscores after cs = some cs := by
  induction cs generalizing after with
  | nil => rw [Number.dropUnderscores]
  | cons c cs inductionHypothesis =>
      rw [List.mem_cons, not_or] at none_
      rw [Number.dropUnderscores, inductionHypothesis none_.2]
      · rfl
      · exact fun same => none_.1 same.symm

theorem trimOf_of_none {drop : Char -> Bool} {cs : List Char}
    (none_ : forall c, c ∈ cs -> drop c = false) : Text.trimOf drop cs = cs := by
  have kept {cs : List Char} (none_ : forall c, c ∈ cs -> drop c = false) :
      cs.dropWhile drop = cs := by
    cases cs with
    | nil => rfl
    | cons c cs =>
        exact List.dropWhile_cons_of_neg (Bool.eq_false_iff.mp (none_ c List.mem_cons_self))
  rw [Text.trimOf, kept none_, kept fun c member => none_ c (List.mem_reverse.mp member),
    List.reverse_reverse]

/-- A whole number is read back if it does not have too many digits. -/
theorem readInt_toString {m : Int} (short : (digitsOf m).length ≤ Number.maxIntDigits) :
    Number.readInt (toString m) = .ok m := by
  have digits {c : Char} (member : c ∈ digitsOf m) : c.isDigit = true := isDigit_of_mem member
  have each {P : Char -> Prop} (sign : P '-') (digit : forall d : Fin 10, P (d : Nat).digitChar) :
      forall c, c ∈ signOf m ++ digitsOf m -> P c := by
    intro c member
    rcases List.mem_append.mp member with front | back
    · rw [signOf] at front
      split at front
      · exact List.mem_singleton.mp front ▸ sign
      · cases front
    · rcases exists_digitChar (digits back) with ⟨d, rfl⟩
      exact digit d
  have trimmed : Text.trimOf Text.isSpace (signOf m ++ digitsOf m) = signOf m ++ digitsOf m :=
    trimOf_of_none (each (by decide) (by decide))
  have plain : Number.plainDigits (signOf m ++ digitsOf m) = signOf m ++ digitsOf m :=
    (List.map_congr_left (each (by decide) (by decide))).trans (List.map_id _)
  have parted : Number.splitSign (signOf m ++ digitsOf m) = (decide (m < 0), digitsOf m) := by
    by_cases negative : m < 0
    · rw [signOf, if_pos negative, decide_eq_true negative]
      rfl
    · rw [signOf, if_neg negative, decide_eq_false negative, List.nil_append]
      cases spelling : digitsOf m with
      | nil => exact absurd spelling Nat.toDigits_ne_nil
      | cons c cs =>
          rcases exists_digitChar (digits (spelling ▸ List.mem_cons_self)) with ⟨d, rfl⟩
          have apart : forall d : Fin 10,
              (d : Nat).digitChar ≠ '-' ∧ (d : Nat).digitChar ≠ '+' := by decide
          rw [Number.splitSign]
          · exact fun rest same => (apart d).1 (List.cons.inj same).1
          · exact fun rest same => (apart d).2 (List.cons.inj same).1
  have dropped : Number.dropUnderscores false (digitsOf m) = some (digitsOf m) :=
    dropUnderscores_of_notMem Nat.underscore_not_in_toDigits false
  have all : Number.isDigits (digitsOf m) = true := by
    rw [Number.isDigits, Bool.and_eq_true, List.all_eq_true]
    refine ⟨?_, fun c member => by rw [plainDigit?_of_isDigit (digits member)]; rfl⟩
    rw [Bool.not_eq_true', List.isEmpty_eq_false_iff]
    exact Nat.toDigits_ne_nil
  rw [Number.readInt, toString_toList, trimmed, plain, parted]
  simp only [dropped, all, Nat.not_lt.mpr short, digitsValue_digitsOf, decide_eq_true_eq,
    Bool.not_true, Bool.false_eq_true, if_false]
  refine congrArg Except.ok ?_
  split <;> omega

/-! ## Whole numbers among values -/

/-- What can stand behind a value: nothing, or what separates or ends items and entries. -/
def IsStop (rest : List Char) : Prop :=
  forall c, rest.head? = some c -> c = ',' ∨ c = ']' ∨ c = '\x7d'

/-- Digits are read up to a stop. -/
theorem takeWhile_isPlain {m : Int} (stop : IsStop rest) :
    (digitsOf m ++ rest).takeWhile isPlain = digitsOf m := by
  rw [List.takeWhile_append_of_pos fun c member => by
    rw [isPlain, plainDigit?_of_isDigit (isDigit_of_mem member)]; rfl]
  cases rest with
  | nil => exact List.append_nil _
  | cons c rest =>
      have other : isPlain c = false := by
        rcases stop c rfl with rfl | rfl | rfl <;> decide
      rw [List.takeWhile_cons_of_neg (Bool.eq_false_iff.mp other), List.append_nil]

theorem fractionPart_of_stop (stop : IsStop rest) : fractionPart rest = ([], rest) := by
  unfold fractionPart
  split
  next => rcases stop '.' rfl with same | same | same <;> cases same
  next => rfl

theorem exponentPart_of_stop (stop : IsStop rest) : exponentPart rest = ([], rest) := by
  unfold exponentPart
  split
  next e tail =>
      have other : (e == 'e' || e == 'E') = false := by
        rcases stop e rfl with rfl | rfl | rfl <;> rfl
      simp only [other, Bool.false_and]
      rfl
  next => rfl

/-- No other number than zero begins with the digit zero. -/
theorem head?_toDigits_ne (positive : 0 < n) : (Nat.toDigits 10 n).head? ≠ some '0' := by
  induction n using Nat.strongRecOn with
  | _ n inductionHypothesis =>
      by_cases small : n < 10
      · have each : forall d : Fin 10, 0 < (d : Nat) -> (d : Nat).digitChar ≠ '0' := by decide
        rw [Nat.toDigits_of_lt_base small]
        exact fun same => each ⟨n, small⟩ positive (Option.some.inj same)
      · have less : n / 10 < n := by omega
        rw [Nat.toDigits_of_base_le (by decide) (Nat.not_lt.mp small),
          List.head?_append_of_ne_nil _ Nat.toDigits_ne_nil]
        exact inductionHypothesis _ less (by omega)

/-- A whole number begins with a digit other than zero, if it is not zero. -/
theorem exists_digit {m : Int} (nonzero : m ≠ 0) : Exists fun d => Exists fun ds =>
    digitsOf m = d :: ds ∧ d.isDigit = true ∧ d ≠ '0' := by
  have other := head?_toDigits_ne (Int.natAbs_pos.mpr nonzero)
  cases spelling : digitsOf m with
  | nil => exact absurd spelling Nat.toDigits_ne_nil
  | cons d ds =>
      rw [<- digitsOf, spelling, List.head?_cons] at other
      exact ⟨d, ds, rfl, isDigit_of_mem (spelling ▸ List.mem_cons_self), fun same =>
        other (congrArg some same)⟩

/-- A whole number is read in front of a stop. -/
theorem readNumber_toString {m : Int} (short : (digitsOf m).length ≤ Number.maxIntDigits)
    (stop : IsStop rest) :
    readNumber ((toString m).toList ++ rest) = .ok (.int m, rest) := by
  have text : String.ofList (signOf m ++ digitsOf m) = toString m := by
    rw [<- toString_toList, String.ofList_toList]
  have empty : (digitsOf m).isEmpty = false := List.isEmpty_eq_false_iff.mpr Nat.toDigits_ne_nil
  rw [toString_toList]
  by_cases zero : m = 0
  · subst zero
    show readNumber ('0' :: rest) = _
    rw [readNumber]
    have value : Number.readInt "0" = .ok 0 := readInt_toString short
    have text : String.ofList ([] ++ ['0'] ++ [] ++ []) = "0" := rfl
    simp only [List.length_singleton, List.drop_succ_cons, List.drop_zero,
      fractionPart_of_stop stop, exponentPart_of_stop stop, text, value]
    rfl
  rcases exists_digit zero with ⟨d, ds, spelling, digit, other⟩
  have front (tail : List Char) : digitsOf m ++ rest ≠ '0' :: tail := by
    intro same
    rw [spelling] at same
    exact other (List.cons.inj same).1
  by_cases negative : m < 0
  · have signed : signOf m = ['-'] := if_pos negative
    rw [signed] at text ⊢
    rw [List.append_assoc, List.singleton_append, readNumber]
    · simp only [takeWhile_isPlain stop, empty, List.drop_left, fractionPart_of_stop stop,
        exponentPart_of_stop stop, List.append_nil, text, readInt_toString short]
      rfl
    · exact front
  · have unsigned : signOf m = [] := if_neg negative
    have noSign (tail : List Char) : digitsOf m ++ rest ≠ '-' :: tail := by
      intro same
      rw [spelling] at same
      rw [(List.cons.inj same).1] at digit
      cases digit
    rw [unsigned, List.nil_append] at text ⊢
    rw [readNumber]
    · simp only [takeWhile_isPlain stop, empty, List.drop_left, fractionPart_of_stop stop,
        exponentPart_of_stop stop, List.append_nil, List.nil_append, text, readInt_toString short]
      rfl
    · exact noSign
    · exact front

/-- No word begins with a digit, with or without a sign. -/
theorem find?_words (digit : c.isDigit = true) (cs : List Char) :
    (words.find? fun word => word.1.isPrefixOf (c :: cs)) = none ∧
      (words.find? fun word => word.1.isPrefixOf ('-' :: c :: cs)) = none := by
  rcases exists_digitChar digit with ⟨d, rfl⟩
  fin_cases d <;> exact ⟨rfl, rfl⟩

theorem readPlain_toString {m : Int} (short : (digitsOf m).length ≤ Number.maxIntDigits)
    (stop : IsStop rest) :
    readPlain ((toString m).toList ++ rest) = .ok (.int m, rest) := by
  have none_ :
      (words.find? fun word => word.1.isPrefixOf ((toString m).toList ++ rest)) = none := by
    rw [toString_toList, signOf]
    cases spelling : digitsOf m with
    | nil => exact absurd spelling Nat.toDigits_ne_nil
    | cons d ds =>
        have words := find?_words (isDigit_of_mem (spelling ▸ List.mem_cons_self)) (ds ++ rest)
        split
        · exact words.2
        · exact words.1
  rw [readPlain, none_]
  exact readNumber_toString short stop

/-! ## Values that are read back -/

/-- The characters that are left out between values. -/
def isGap (c : Char) : Bool := c == ' ' || c == '\t' || c == '\n' || c == '\r'

/-- A value is read back from its text, wherever this text stands among others.  The text of a value
begins with something that does not end a list, and that is not left out. -/
structure IsReadBack (v : Value) : Prop where
  begins : Exists fun c => Exists fun cs => (write v).toList = c :: cs ∧ c ≠ ']' ∧
    c ≠ '\uFEFF' ∧ isGap c = false
  reads : forall fuel rest, (write v).toList.length < fuel -> IsStop rest ->
    readValue fuel ((write v).toList ++ rest) = .ok (v, rest)

theorem skip_cons (cs : List Char) (kept : isGap c = false) : skip (c :: cs) = c :: cs :=
  List.dropWhile_cons_of_neg (Bool.eq_false_iff.mp kept)

theorem isStop_nil : IsStop [] := nofun

theorem isStop_cons (known : c = ',' ∨ c = ']' ∨ c = '\x7d') (cs : List Char) :
    IsStop (c :: cs) := by
  intro d same
  rw [<- Option.some.inj same]
  exact known

namespace IsReadBack

variable {v : Value}

/-- A whole text is read as its value. -/
theorem read_write (back : IsReadBack v) : read (write v) = .ok v := by
  rcases back.begins with ⟨c, cs, spelling, _, noMark, kept⟩
  have reads := back.reads ((write v).toList.length + 1) [] (Nat.lt_succ_self _) isStop_nil
  have marked : ((c :: cs).head? == some '\uFEFF') = false := by
    rw [List.head?_cons]
    exact beq_eq_false_iff_ne.mpr fun same => noMark (Option.some.inj same)
  rw [List.append_nil, spelling] at reads
  simp only [read, spelling, marked, skip_cons cs kept, reads, Bool.false_eq_true, if_false,
    Result.ok_bind]
  rfl

theorem text (s : String) : IsReadBack (.text s) := by
  have spelling : (write (.text s)).toList = '"' :: (spelled s.toList ++ ['"']) :=
    stringText_toList s
  refine ⟨⟨'"', _, spelling, by decide, by decide, rfl⟩, fun fuel rest enough _ => ?_⟩
  rcases Nat.exists_eq_add_one.mpr (Nat.zero_lt_of_lt enough) with ⟨fuel, rfl⟩
  rw [spelling, List.cons_append, List.append_assoc, List.singleton_append, readValue,
    readString_spelled]
  rfl

theorem whole {m : Int} (short : (digitsOf m).length ≤ Number.maxIntDigits) :
    IsReadBack (.int m) := by
  have spelling : (write (.int m)).toList = (toString m).toList := rfl
  have begins : Exists fun c => Exists fun cs => (toString m).toList = c :: cs ∧
      (c = '-' ∨ c.isDigit = true) := by
    rw [toString_toList, signOf]
    cases digits : digitsOf m with
    | nil => exact absurd digits Nat.toDigits_ne_nil
    | cons d ds =>
        split
        · exact ⟨'-', _, rfl, .inl rfl⟩
        · exact ⟨d, ds, rfl, .inr (isDigit_of_mem (digits ▸ List.mem_cons_self))⟩
  rcases begins with ⟨c, cs, front, known⟩
  have other {d : Char} (noSign : d ≠ '-') (noDigit : d.isDigit = false) : c ≠ d := by
    rintro rfl
    rcases known with rfl | digit
    · exact noSign rfl
    · exact Bool.false_ne_true (noDigit.symm.trans digit)
  have gaps : forall d : Fin 10, isGap (d : Nat).digitChar = false := by decide
  refine ⟨⟨c, cs, spelling.trans front, other (by decide) rfl, other (by decide) rfl, ?_⟩, ?_⟩
  · rcases known with rfl | digit
    · rfl
    · rcases exists_digitChar digit with ⟨d, rfl⟩
      exact gaps d
  · intro fuel rest enough stop
    rcases Nat.exists_eq_add_one.mpr (Nat.zero_lt_of_lt enough) with ⟨fuel, rfl⟩
    have reads := readPlain_toString short stop
    rw [spelling]
    rw [front, List.cons_append] at reads ⊢
    rw [readValue]
    · exact reads
    · exact fun _ same => other (by decide) rfl (List.cons.inj same).1
    · exact fun _ same => other (by decide) rfl (List.cons.inj same).1
    · exact fun _ same => other (by decide) rfl (List.cons.inj same).1

end IsReadBack

/-! ## Lists and mappings -/

/-- Texts with a comma and a blank between them. -/
def joined (texts : List (List Char)) : List Char := ", ".toList.intercalate texts

theorem joined_cons_cons (one two : List Char) (more : List (List Char)) :
    joined (one :: two :: more) = one ++ ',' :: ' ' :: joined (two :: more) := by
  rw [joined, List.intercalate_cons_cons, List.append_assoc]
  rfl

theorem joined_singleton (one : List Char) : joined [one] = one := List.intercalate_singleton

/-- What is joined begins as its first part does. -/
theorem joined_cons (c : Char) (cs : List Char) (more : List (List Char)) :
    Exists fun rest => joined ((c :: cs) :: more) = c :: rest := by
  cases more with
  | nil => exact ⟨cs, joined_singleton _⟩
  | cons two more => exact ⟨_, joined_cons_cons (c :: cs) two more⟩

section Steps

variable {v : Value} {items : List Value} {more cs : List Char} {key : String}
  {done entries : List (Value × Value)}

theorem readItems_last (reads : readValue fuel cs = .ok (v, ']' :: rest)) :
    readItems (fuel + 1) cs = .ok ([v], rest) := by
  rw [readItems, reads]
  rfl

theorem readItems_next (reads : readValue fuel cs = .ok (v, ',' :: more))
    (later : readItems fuel (skip more) = .ok (items, rest)) :
    readItems (fuel + 1) cs = .ok (v :: items, rest) := by
  rw [readItems, reads, Result.ok_bind]
  change (readItems fuel (skip more) >>= fun read => pure (v :: read.1, read.2)) = _
  rw [later]
  rfl

theorem readValue_list (noEnd : c ≠ ']') (kept : isGap c = false)
    (reads : readItems fuel (c :: cs) = .ok (items, rest)) :
    readValue (fuel + 1) ('[' :: c :: cs) = .ok (.list items, rest) := by
  rw [readValue, skip_cons cs kept]
  split
  next same => exact absurd (List.cons.inj same).1 noEnd
  next =>
      rw [reads]
      rfl

theorem readEntries_last (named : readString cs = .ok (key, ':' :: more))
    (reads : readValue fuel (skip more) = .ok (v, '\x7d' :: rest)) :
    readEntries (fuel + 1) ('"' :: cs) done = .ok (Value.putEntry done (.text key) v, rest) := by
  rw [readEntries, named, Result.ok_bind]
  change (readValue fuel (skip more) >>= fun read => _) = _
  rw [reads]
  rfl

theorem readEntries_next (named : readString cs = .ok (key, ':' :: more))
    {after : List Char} (reads : readValue fuel (skip more) = .ok (v, ',' :: after))
    (later : readEntries fuel (skip after) (Value.putEntry done (.text key) v) =
      .ok (entries, rest)) :
    readEntries (fuel + 1) ('"' :: cs) done = .ok (entries, rest) := by
  rw [readEntries, named, Result.ok_bind]
  change (readValue fuel (skip more) >>= fun read => _) = _
  rw [reads]
  exact later

theorem readValue_mapping (noEnd : c ≠ '\x7d') (kept : isGap c = false)
    (reads : readEntries fuel (c :: cs) [] = .ok (entries, rest)) :
    readValue (fuel + 1) ('\x7b' :: c :: cs) = .ok (.mapping entries, rest) := by
  rw [readValue, skip_cons cs kept]
  split
  next same => exact absurd (List.cons.inj same).1 noEnd
  next =>
      rw [reads]
      rfl

end Steps

theorem list_toList (items : List Value) : (write (.list items)).toList =
    '[' :: (joined (items.map fun v => (write v).toList) ++ [']']) := by
  have all (items : List Value) : writeAll items = items.map write := by
    induction items with
    | nil => rfl
    | cons v items inductionHypothesis => rw [writeAll, inductionHypothesis, List.map_cons]
  rw [write, String.toList_append, String.toList_append, String.toList_intercalate, all,
    List.map_map]
  rfl

/-- The text of some values begins as the text of the first one does. -/
theorem exists_front {items : List Value} (back : forall v, v ∈ items -> IsReadBack v)
    (some_ : items ≠ []) : Exists fun c => Exists fun cs =>
      joined (items.map fun v => (write v).toList) = c :: cs ∧ c ≠ ']' ∧ isGap c = false := by
  cases items with
  | nil => exact absurd rfl some_
  | cons v items =>
      rcases (back v List.mem_cons_self).begins with ⟨c, cs, spelling, noEnd, _, kept⟩
      rcases joined_cons c cs (items.map fun v => (write v).toList) with ⟨rest, same⟩
      rw [List.map_cons, spelling]
      exact ⟨c, rest, same, noEnd, kept⟩

theorem skip_joined {items : List Value} (back : forall v, v ∈ items -> IsReadBack v)
    (some_ : items ≠ []) (rest : List Char) :
    skip (joined (items.map fun v => (write v).toList) ++ rest) =
      joined (items.map fun v => (write v).toList) ++ rest := by
  rcases exists_front back some_ with ⟨c, cs, front, _, kept⟩
  rw [front]
  exact skip_cons _ kept

/-- Values that are read back are read one after another. -/
theorem readItems_joined {items : List Value} (back : forall v, v ∈ items -> IsReadBack v)
    (some_ : items ≠ [])
    (enough : (joined (items.map fun v => (write v).toList)).length + 1 < fuel)
    (rest : List Char) :
    readItems fuel (joined (items.map fun v => (write v).toList) ++ ']' :: rest) =
      .ok (items, rest) := by
  induction items generalizing fuel with
  | nil => exact absurd rfl some_
  | cons v items inductionHypothesis =>
      have first := back v List.mem_cons_self
      have later : forall v, v ∈ items -> IsReadBack v := fun w member =>
        back w (List.mem_cons_of_mem v member)
      rcases Nat.exists_eq_add_one.mpr (Nat.zero_lt_of_lt enough) with ⟨fuel, rfl⟩
      have less := Nat.lt_of_succ_lt_succ enough
      cases items with
      | nil =>
          rw [List.map_singleton, joined_singleton] at less ⊢
          exact readItems_last (first.reads fuel _ less (isStop_cons (.inr (.inl rfl)) rest))
      | cons w items =>
          have some_ := List.cons_ne_nil w items
          rw [List.map_cons, List.map_cons, joined_cons_cons,
            <- List.map_cons (f := fun v => (write v).toList)] at less ⊢
          rw [List.length_append, List.length_cons, List.length_cons] at less
          rw [List.append_assoc]
          refine readItems_next (first.reads fuel _ (by omega) (isStop_cons (.inl rfl) _)) ?_
          exact (congrArg (readItems fuel) (skip_joined later some_ _)).trans
            (inductionHypothesis later some_ (by omega))

/-- A list of values that are read back is read back. -/
theorem IsReadBack.list {items : List Value} (back : forall v, v ∈ items -> IsReadBack v) :
    IsReadBack (.list items) := by
  refine ⟨⟨'[', _, list_toList items, by decide, by decide, rfl⟩, fun fuel rest enough stop => ?_⟩
  rcases Nat.exists_eq_add_one.mpr (Nat.zero_lt_of_lt enough) with ⟨fuel, rfl⟩
  rw [list_toList, List.length_cons, List.length_append, List.length_singleton] at enough
  rw [list_toList, List.cons_append, List.append_assoc, List.singleton_append]
  by_cases none_ : items = []
  · subst none_
    rw [readValue]
    rfl
  · have reads := readItems_joined back none_ (Nat.lt_of_succ_lt_succ enough) rest
    rcases exists_front back none_ with ⟨c, cs, front, noEnd, kept⟩
    rw [front] at reads ⊢
    exact readValue_list noEnd kept reads

/-- The text of an entry. -/
def entryText (entry : String × Value) : List Char :=
  '"' :: (spelled entry.1.toList ++ '"' :: ':' :: ' ' :: (write entry.2).toList)

theorem record_toList (entries : List (String × Value)) : (write (.record entries)).toList =
    '\x7b' :: (joined (entries.map entryText) ++ ['\x7d']) := by
  have all : (writeEntries (entries.map fun entry => (.text entry.1, entry.2))).map String.toList =
      entries.map entryText := by
    induction entries with
    | nil => rfl
    | cons entry entries inductionHypothesis =>
        rw [List.map_cons, writeEntries, List.map_cons, inductionHypothesis, List.map_cons]
        refine congrArg (· :: entries.map entryText) ?_
        rw [String.toList_append, String.toList_append, stringText_toList, entryText]
        simp [keyText, Value.display]
  rw [Value.record, write, String.toList_append, String.toList_append, String.toList_intercalate,
    all]
  rfl

/-- Entries as a mapping keeps them. -/
def keyed (entries : List (String × Value)) : List (Value × Value) :=
  entries.map fun entry => (.text entry.1, entry.2)

/-- A new key goes behind the others. -/
theorem putEntry_keyed {entries : List (String × Value)} {key : String}
    (fresh : key ∉ entries.map Prod.fst) (v : Value) :
    Value.putEntry (keyed entries) (.text key) v = keyed (entries ++ [(key, v)]) := by
  rw [Value.putEntry, if_neg]
  · simp [keyed]
  · rw [keyed, List.any_map, List.any_eq_true]
    rintro ⟨entry, member, same⟩
    exact fresh (List.mem_map.mpr ⟨entry, member, beq_iff_eq.mp same⟩)

theorem skip_write {v : Value} (back : IsReadBack v) (rest : List Char) :
    skip ((write v).toList ++ rest) = (write v).toList ++ rest := by
  rcases back.begins with ⟨c, cs, spelling, _, _, kept⟩
  rw [spelling]
  exact skip_cons _ kept

/-- Entries begin with a quote. -/
theorem exists_quote {entries : List (String × Value)} (some_ : entries ≠ []) :
    Exists fun cs => joined (entries.map entryText) = '"' :: cs := by
  cases entries with
  | nil => exact absurd rfl some_
  | cons entry entries => exact joined_cons '"' _ _

/-- Entries with different keys, whose values are read back, are read one after another. -/
theorem readEntries_joined {entries : List (String × Value)} (before : List (String × Value))
    (back : forall entry, entry ∈ entries -> IsReadBack entry.2) (some_ : entries ≠ [])
    (distinct : ((before ++ entries).map Prod.fst).Nodup)
    (enough : (joined (entries.map entryText)).length + 1 < fuel) (rest : List Char) :
    readEntries fuel (joined (entries.map entryText) ++ '\x7d' :: rest) (keyed before) =
      .ok (keyed (before ++ entries), rest) := by
  induction entries generalizing fuel before with
  | nil => exact absurd rfl some_
  | cons entry entries inductionHypothesis =>
      rcases entry with ⟨key, v⟩
      have first : IsReadBack v := back (key, v) List.mem_cons_self
      have later : forall entry, entry ∈ entries -> IsReadBack entry.2 := fun other member =>
        back other (List.mem_cons_of_mem _ member)
      have fresh : key ∉ before.map Prod.fst := by
        rw [List.map_append, List.nodup_append] at distinct
        exact fun inside => distinct.2.2 key inside key List.mem_cons_self rfl
      rw [List.append_cons before (key, v) entries] at distinct ⊢
      rcases Nat.exists_eq_add_one.mpr (Nat.zero_lt_of_lt enough) with ⟨fuel, rfl⟩
      have less := Nat.lt_of_succ_lt_succ enough
      have spelling (tail : List Char) : entryText (key, v) ++ tail =
          '"' :: (spelled key.toList ++ '"' :: ':' :: ' ' :: ((write v).toList ++ tail)) := by
        simp [entryText]
      have shorter : (write v).toList.length < (entryText (key, v)).length := by
        simp [entryText]
        omega
      -- What is behind the colon is read as the value, in front of whatever stops it.
      have reads {tail : List Char} (enough : (write v).toList.length < fuel)
          (stop : IsStop tail) : readValue fuel (skip (' ' :: ((write v).toList ++ tail))) =
            .ok (v, tail) :=
        (congrArg (readValue fuel) (skip_write first tail)).trans
          (first.reads fuel tail enough stop)
      cases entries with
      | nil =>
          rw [List.map_singleton, joined_singleton] at less ⊢
          rw [spelling, List.append_nil, <- putEntry_keyed fresh v]
          exact readEntries_last (readString_spelled key _)
            (reads (by omega) (isStop_cons (.inr (.inr rfl)) rest))
      | cons other entries =>
          have some_ := List.cons_ne_nil other entries
          rw [List.map_cons, List.map_cons, joined_cons_cons,
            <- List.map_cons (f := entryText)] at less ⊢
          rw [List.length_append, List.length_cons, List.length_cons] at less
          rw [List.append_assoc, spelling]
          refine readEntries_next (readString_spelled key _)
            (reads (by omega) (isStop_cons (.inl rfl) _)) ?_
          rw [putEntry_keyed fresh v]
          have read := @inductionHypothesis fuel (before ++ [(key, v)]) later some_ distinct
            (by omega)
          rcases exists_quote some_ with ⟨cs, front⟩
          rw [front] at read ⊢
          exact read

/-- A mapping with different texts as keys, whose values are read back, is read back. -/
theorem IsReadBack.record {entries : List (String × Value)} (distinct : (entries.map Prod.fst).Nodup)
    (back : forall entry, entry ∈ entries -> IsReadBack entry.2) :
    IsReadBack (.record entries) := by
  refine ⟨⟨'\x7b', _, record_toList entries, by decide, by decide, rfl⟩,
    fun fuel rest enough stop => ?_⟩
  rcases Nat.exists_eq_add_one.mpr (Nat.zero_lt_of_lt enough) with ⟨fuel, rfl⟩
  rw [record_toList, List.length_cons, List.length_append, List.length_singleton] at enough
  rw [record_toList, List.cons_append, List.append_assoc, List.singleton_append]
  by_cases none_ : entries = []
  · subst none_
    rw [readValue]
    rfl
  · have reads := readEntries_joined [] back none_ distinct (Nat.lt_of_succ_lt_succ enough) rest
    rcases exists_quote none_ with ⟨cs, front⟩
    rw [front] at reads ⊢
    exact readValue_mapping (by decide) rfl reads

end Json

/-! ## Documents -/

namespace Database

/-- A document with the text that is written for its value. -/
def Document.written : Document -> Document
  | .value v => .text (Json.write v)
  | .text s => .text s

/-- A value that is read back is read from its text as well. -/
theorem Document.read_written {v : Value} (back : Json.IsReadBack v) :
    (Document.value v).written.read = (Document.value v).read := by
  rw [written, read, read, back.read_write]
  rfl

/-- A row of a rule with the texts that are written for its columns of values. -/
def RuleRow.written (row : RuleRow) : RuleRow :=
  { row with conditions := row.conditions.written, actions := row.actions.written }

end Database

/-- The text of an action is read back. -/
theorem Action.isReadBack (action : Action) : Json.IsReadBack action.toValue := by
  have distinct : ["type", "target_value"].Nodup := by decide
  refine .record distinct fun entry member => ?_
  rcases List.mem_pair.mp member with rfl | rfl <;> exact .text _

/-- The operand can be read from a text: it is a text, a whole number that does not have too many
digits, or a double that its own text is read back as. -/
def Operand.IsReadable : Operand -> Prop
  | .text _ => True
  | .number (.whole n) => (Json.digitsOf n).length ≤ Number.maxIntDigits
  | .number (.real x) => Json.IsReadBack (.float x)

theorem Operand.isReadBack {operand : Operand} (readable : operand.IsReadable) :
    Json.IsReadBack operand.toValue := by
  cases operand with
  | text s => exact .text s
  | number q =>
      cases q with
      | whole n => exact .whole readable
      | real x => exact readable

/-- The text of a condition is read back if that of its operand is. -/
theorem Condition.isReadBack {condition : Condition}
    (readable : condition.operand.IsReadable) : Json.IsReadBack condition.toValue := by
  have distinct : ["field", "operator", "value"].Nodup := by decide
  refine .record distinct fun entry member => ?_
  rcases List.mem_cons.mp member with rfl | member
  · exact .text _
  rcases List.mem_pair.mp member with rfl | rfl
  · exact .text _
  · exact Operand.isReadBack readable

end Triage
