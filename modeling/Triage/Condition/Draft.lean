import Triage.Condition

namespace Triage

/-!
Conditions that nobody has checked.

A draft keeps what stands where a criterion, a comparison or an operand should be.  Every
condition is a draft whose parts are all known, so evaluation and review need to be said for
drafts only.
-/

/-- A known name, or the value that stands in its place. -/
inductive Naming (A : Type) where
  | known (a : A)
  | unknown (value : Value)
deriving Inhabited

namespace Naming

/-- The known name. -/
def toOption {A : Type} : Naming A -> Option A
  | known a => some a
  | unknown _ => none

/-- Recognises a written name. -/
def ofValue {A : Type} (ofName? : String -> Option A) (value : Value) : Naming A :=
  match value.asText?.bind ofName? with
  | some a => known a
  | none => unknown value

/-- The text of a name or of what stands in its place. -/
def display {A : Type} (name : A -> String) : Naming A -> String
  | known a => name a
  | unknown value => value.display

end Naming

namespace Condition

/-- An unchecked condition. -/
structure Draft where
  criterion : Naming Criterion
  comparison : Naming Comparison
  operand : Value
deriving Inhabited

/-- A checked condition as a draft. -/
def toDraft (condition : Condition) : Draft :=
  ⟨.known condition.criterion, .known condition.comparison, condition.operand.toValue⟩

def Draft.looksAt (draft : Draft) (criterion : Criterion) : Bool :=
  draft.criterion.toOption == some criterion

/-- A draft from the entries of a record; a missing entry counts as null. -/
def Draft.ofValue (record : Value) : Draft :=
  let entry (name : String) := (record.get? name).getD .null
  ⟨.ofValue Criterion.ofName? (entry "field"), .ofValue Comparison.ofName? (entry "operator"),
    entry "value"⟩

end Condition
end Triage
