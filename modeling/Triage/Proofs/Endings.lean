import Triage.Proofs.Checked
import Triage.Rule

namespace Triage

/-!
# Checks that end

The check of a record gathers the faults of all its fields, but a failure that is no fault ends it
at once.  Only the check of a moment can end like that: where a value means a moment outside the
calendar.  All other checks of single values come to a value or to faults, and so do those of
conditions and of actions, which hold no moments.
-/

namespace Field
namespace Checked

variable {A B : Type}

/-- The failure that ended a check, if one did. -/
def ending : Checked A -> Option Failure
  | good _ => none
  | faulty _ => none
  | ended failure => some failure

theorem ending_eq_some_iff {checked : Checked A} {failure : Failure} :
    checked.ending = some failure ↔ checked = ended failure := by
  cases checked <;> simp [ending]

@[simp]
theorem ending_good (a : A) : (good a).ending = none := rfl

@[simp]
theorem ending_fault (cause : Cause) (found : Value) :
    (fault cause found : Checked A).ending = none := rfl

@[simp]
theorem ending_map (f : A -> B) (checked : Checked A) :
    (f <$> checked).ending = checked.ending := by
  cases checked <;> rfl

/-- Of two checks the first one that ends ends both. -/
@[simp]
theorem ending_seq (f : Checked (A -> B)) (checked : Checked A) :
    (f <*> checked).ending = f.ending.or checked.ending := by
  cases f <;> cases checked <;> rfl

@[simp]
theorem ending_under (step : String) (checked : Checked A) :
    (checked.under step).ending = checked.ending := by
  cases checked <;> rfl

theorem ending_andThen {checked : Checked A} {next : A -> Checked B}
    (never : forall a, checked = good a -> (next a).ending = none) :
    (checked.andThen next).ending = checked.ending := by
  cases checked with
  | good a => exact never a rfl
  | faulty faults => rfl
  | ended failure => rfl

end Checked

open Checked

variable {A : Type} {check : Value -> Checked A}

theorem ending_required {record value : Value} {name : String}
    (found : record.get? name = some value) :
    (required record name check).ending = (check value).ending := by
  rw [required, found, ending_under]

theorem ending_required_none (record : Value) (name : String)
    (never : forall value, (check value).ending = none) :
    (required record name check).ending = none := by
  rw [required, ending_under]
  split
  next => exact never _
  next => rfl

theorem ending_optional {record value : Value} {name : String} {absent : A}
    (found : record.get? name = some value) :
    (optional record name absent check).ending = (check value).ending := by
  rw [optional, found, ending_under]

theorem ending_optional_none (record : Value) (name : String) {absent : A}
    (never : forall value, (check value).ending = none) :
    (optional record name absent check).ending = none := by
  rw [optional, ending_under]
  split
  next => exact never _
  next => rfl

theorem ending_nullable (null : (check .null).ending = none) (value : Value) :
    (nullable check value).ending = (check value).ending := by
  unfold nullable
  split
  next => exact null.symm
  next => exact ending_map _ _

theorem ending_text (value : Value) : (text value).ending = none := by
  unfold text
  split <;> rfl

theorem ending_flag (value : Value) : (flag value).ending = none := by
  have ofWhole (n : Int) : (flagOfWhole n value).ending = none := by
    unfold flagOfWhole
    split
    · rfl
    · split <;> rfl
  unfold flag
  split
  · rfl
  · split
    · exact ofWhole _
    · rfl
  · split
    · exact ofWhole _
    · rfl
  · split
    · split <;> rfl
    · rfl
    · rfl

theorem ending_whole (value : Value) : (whole value).ending = none := by
  have ofFloat (x : Float) : (wholeOfFloat x value).ending = none := by
    unfold wholeOfFloat
    split
    · dsimp only
      split
      · rfl
      · split <;> rfl
    · rfl
  unfold whole
  split
  · rfl
  · rfl
  · exact ofFloat _
  · split
    · split
      · rfl
      · split <;> rfl
    · rfl
    · rfl

theorem ending_choice (choices : List A) (name : A -> String) (value : Value) :
    (choice choices name value).ending = none := by
  unfold choice
  split <;> rfl

/-! ## Moments outside the calendar -/

theorem ending_moment_null : (moment .null).ending = none := rfl

/-- A value that means a moment outside the calendar. -/
def IsOutside (value : Value) : Prop :=
  Exists fun failure => moment value = .ended failure

theorem ending_moment_iff {value : Value} :
    (moment value).ending.isSome = true ↔ IsOutside value := by
  rw [Option.isSome_iff_exists]
  exact exists_congr fun failure => ending_eq_some_iff

/-- A check that only ends with failures that the engine does not know as its own. -/
def EndsPlainly (checked : Checked A) : Prop :=
  forall failure, checked = .ended failure ->
    Exists fun trouble => Exists fun message => failure = .plain trouble message

theorem EndsPlainly.of_none {checked : Checked A} (never : checked.ending = none) :
    EndsPlainly checked := by
  rintro failure rfl
  cases never

theorem stampOf_endsPlainly (date : Time.Date) (timeOfDay : Nat) (offset : Option Int) :
    EndsPlainly (stampOf date timeOfDay offset) := by
  intro failure ends
  unfold stampOf at ends
  split at ends
  · cases ends
    exact ⟨_, _, rfl⟩
  · split at ends
    · cases ends
    · cases ends
      exact ⟨_, _, rfl⟩

section Counts

variable {stamp : Checked Stamp}

theorem stampOfCount_endsPlainly {count : Int} {extra : Nat}
    (read : stampOfCount count extra = .ok stamp) : EndsPlainly stamp := by
  rcases Result.bind_eq_ok_iff.mp read with ⟨ticks, _, made⟩
  intro failure ends
  split at made
  · cases made
    cases ends
  · cases made
    cases ends
    exact ⟨_, _, rfl⟩

theorem stampOfFloat_endsPlainly {x : Float} (read : stampOfFloat x = .ok stamp) :
    EndsPlainly stamp := by
  unfold stampOfFloat at read
  dsimp only at read
  split at read
  · cases read
  · exact stampOfCount_endsPlainly read

theorem stampOfWritten_endsPlainly {count : Quantity} (read : stampOfWritten count = .ok stamp) :
    EndsPlainly stamp := by
  unfold stampOfWritten at read
  split at read
  · exact stampOfCount_endsPlainly read
  · exact stampOfCount_endsPlainly read

theorem countOutcome_endsPlainly {found : Value} {read : Except MomentFault (Checked Stamp)}
    (plain : forall stamp, read = .ok stamp -> EndsPlainly stamp) :
    EndsPlainly (countOutcome found read) := by
  cases read with
  | ok stamp => exact plain stamp rfl
  | error fault => exact nofun

theorem writtenStamp_endsPlainly {cs : List Char} (read : writtenStamp? cs = some stamp) :
    EndsPlainly stamp := by
  simp only [writtenStamp?, Option.bind_eq_bind, Option.bind_eq_some_iff] at read
  rcases read with ⟨date, _, separator, _, rest⟩
  split at rest
  · rcases Option.bind_eq_some_iff.mp rest with ⟨time, _, later⟩
    rcases Option.bind_eq_some_iff.mp later with ⟨offset, _, made⟩
    cases made
    exact stampOf_endsPlainly _ _ _
  · cases rest

theorem dayOfText_endsPlainly {cs : List Char} (read : dayOfText cs = .ok stamp) :
    EndsPlainly stamp := by
  unfold dayOfText at read
  split at read
  · split at read
    · cases read
    · cases read
      exact stampOf_endsPlainly _ _ _
  · exact stampOfCount_endsPlainly read
  · cases read

end Counts

theorem stampOfText_endsPlainly (s : String) (found : Value) :
    EndsPlainly (stampOfText s found) := by
  unfold stampOfText
  dsimp only
  split
  next stamp known =>
      rcases Option.or_eq_some_iff.mp (Option.orElse_eq_or ▸ known) with written | ⟨_, counted⟩
      · exact writtenStamp_endsPlainly written
      · rcases Option.bind_eq_some_iff.mp counted with ⟨count, _, read⟩
        cases made : stampOfWritten count with
        | error fault =>
            rw [made] at read
            cases read
        | ok stamp =>
            rw [made] at read
            cases read
            exact stampOfWritten_endsPlainly made
  next =>
      split
      next stamp read => exact dayOfText_endsPlainly read
      next => exact nofun

theorem moment_endsPlainly (value : Value) : EndsPlainly (moment value) := by
  have plain : EndsPlainly (stamp value) := by
    unfold stamp
    split
    · exact nofun
    · exact stampOf_endsPlainly _ _ _
    · split
      · exact countOutcome_endsPlainly fun stamp => stampOfCount_endsPlainly
      · split
        · exact countOutcome_endsPlainly fun stamp => stampOfFloat_endsPlainly
        · exact nofun
    · exact countOutcome_endsPlainly fun stamp => stampOfFloat_endsPlainly
    · split
      · exact stampOfText_endsPlainly _ _
      · exact nofun
  intro failure ends
  rw [moment] at ends
  cases checked : stamp value with
  | good read =>
      rw [checked, andThen_good] at ends
      unfold instantOf at ends
      split at ends
      · cases ends
      · cases ends
        exact ⟨_, _, rfl⟩
  | faulty faults =>
      rw [checked] at ends
      cases ends
  | ended other =>
      rw [checked] at ends
      cases ends
      exact plain _ checked

end Field

/-! ## Checks that never end -/

namespace Operand

theorem ending_check (criterion : Criterion) (value : Value) :
    (check criterion value).ending = none := by
  have number : (checkNumber criterion value).ending = none := by
    unfold checkNumber
    split
    · rfl
    · split <;> rfl
  have text : (checkText criterion value).ending = none := by
    unfold checkText
    split
    · split <;> rfl
    · rfl
  unfold check
  split
  · rfl
  · rfl
  · split
    · exact number
    · exact text

end Operand

theorem Condition.ending_check (record : Value) : (check record).ending = none := by
  have operand (criterion : Field.Checked Criterion) (value : Value) :
      (checkOperand criterion value).ending = none := by
    cases criterion with
    | good known => exact Operand.ending_check known value
    | faulty faults => rfl
    | ended failure => rfl
  have compared (condition : Condition) : (checkComparison record condition).ending = none := by
    unfold checkComparison
    split <;> rfl
  rw [check, Field.Checked.ending_andThen fun condition _ => compared condition]
  simp only [Field.Checked.ending_seq, Field.Checked.ending_map,
    Field.ending_required_none record _ (Field.ending_choice _ _),
    Field.ending_required_none record _ (operand _), Option.or_none]

theorem Action.ending_check (record : Value) : (check record).ending = none := by
  have target (value : Value) : (checkTarget value).ending = none := by
    unfold checkTarget
    dsimp only
    split
    · rfl
    · rfl
    · split <;> rfl
  simp only [check, Field.Checked.ending_seq, Field.Checked.ending_map,
    Field.ending_required_none record _ (Field.ending_choice _ _),
    Field.ending_required_none record _ target, Option.or_none]

end Triage
