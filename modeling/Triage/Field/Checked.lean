import Triage.Failure

namespace Triage
namespace Field

/-!
Checked records.

The fields of a record are checked one after another, and the faults of all of them are
gathered.  A failure that is no fault, such as an instant outside the calendar, ends the
check at once and hides the faults.
-/

/-- The result of checking: a value, the gathered faults, or a failure that ended the check. -/
inductive Checked (A : Type) where
  | good (value : A)
  | faulty (faults : List Fault)
  | ended (failure : Failure)

namespace Checked

/-- Applies a function to a good value. -/
def map {A B : Type} (f : A -> B) : Checked A -> Checked B
  | good value => good (f value)
  | faulty faults => faulty faults
  | ended failure => ended failure

/-- Checks two parts and gathers the faults of both, those of the first in front. -/
def both {A B : Type} : Checked A -> Checked B -> Checked (A × B)
  | good a, good b => good (a, b)
  | good _, faulty faults => faulty faults
  | faulty faults, good _ => faulty faults
  | faulty first, faulty second => faulty (first ++ second)
  | ended failure, _ => ended failure
  | _, ended failure => ended failure

instance : Functor Checked := ⟨fun f checked => map f checked, fun a checked => map (fun _ => a) checked⟩

instance : Applicative Checked where
  pure := good
  seq f a := map (fun pair => pair.1 pair.2) (both f (a ()))

/-- Continues with a further check once everything so far is good. -/
def andThen {A B : Type} (checked : Checked A) (next : A -> Checked B) : Checked B :=
  match checked with
  | good value => next value
  | faulty faults => faulty faults
  | ended failure => ended failure

/-- Moves all faults one step further from the root. -/
def under {A : Type} (step : String) : Checked A -> Checked A
  | faulty faults => faulty (faults.map (Fault.under step))
  | other => other

/-- A single fault at the root. -/
def fault {A : Type} (cause : Cause) (found : Value) : Checked A := faulty [⟨[], cause, found⟩]

/-- Checks every item of a list; an item's number is the step that leads to it. -/
def items {A : Type} (check : Value -> Checked A) : Nat -> List Value -> Checked (List A)
  | _, [] => good []
  | position, value :: values =>
      map (fun pair => pair.1 :: pair.2)
        (both ((check value).under (toString position)) (items check (position + 1) values))

/-- The outcome for a record of a given name. -/
def outcome {A : Type} (model : String) : Checked A -> Except Failure A
  | good value => .ok value
  | faulty faults => .error (.fields model faults)
  | ended failure => .error failure

theorem outcome_eq_ok_iff {A : Type} {model : String} {checked : Checked A} {value : A} :
    checked.outcome model = .ok value <-> checked = good value := by
  cases checked <;> simp [outcome]

end Checked

def required {A : Type} (record : Value) (name : String) (check : Value -> Checked A) :
    Checked A :=
  (match record.get? name with
    | some value => check value
    | none => .fault .missing record).under name

/-- Checks a field that may be left out. -/
def optional {A : Type} (record : Value) (name : String) (absent : A)
    (check : Value -> Checked A) : Checked A :=
  (match record.get? name with
    | some value => check value
    | none => .good absent).under name

/-- A check that also takes the null value. -/
def nullable {A : Type} (check : Value -> Checked A) : Value -> Checked (Option A)
  | .null => .good none
  | value => (check value).map some

/-- A list whose items are checked. -/
def listOf {A : Type} (check : Value -> Checked A) : Value -> Checked (List A)
  | .list items => Checked.items check 0 items
  | .pair first second => Checked.items check 0 [first, second]
  | other => .fault .list other

end Field
end Triage
