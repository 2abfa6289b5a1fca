import Triage.Field.Scalar

namespace Triage

/-!
Conditions of rules.

A condition compares one criterion of a ticket with an operand.  Which comparisons make
sense follows from the kind of the criterion, and a condition is only built when its
comparison is one of them and its operand is of the right kind.
-/

/-- What a condition looks at. -/
inductive Criterion where
  | status
  | priority
  | assignee
  | company
  | category
  | ageDays
  | hoursSinceUpdate
deriving DecidableEq, Repr, Inhabited

/-- How the values of a criterion compare. -/
inductive Scale where
  | categorical
  | ordinal
  | numeric
deriving DecidableEq, Repr

inductive Comparison where
  | equals
  | notEquals
  | greaterThan
  | lessThan
deriving DecidableEq, Repr, Inhabited

namespace Criterion

/-- All criteria, in the order complaints list them. -/
def all : List Criterion :=
  [status, priority, assignee, company, category, ageDays, hoursSinceUpdate]

/-- The written name of a criterion. -/
def name : Criterion -> String
  | status => "status"
  | priority => "priority"
  | assignee => "assignee"
  | company => "company"
  | category => "type"
  | ageDays => "age_days"
  | hoursSinceUpdate => "time_since_update_hours"

/-- How the values of a criterion compare. -/
def scale : Criterion -> Scale
  | priority => .ordinal
  | ageDays => .numeric
  | hoursSinceUpdate => .numeric
  | _ => .categorical

/-- The criterion of a written name. -/
def ofName? (s : String) : Option Criterion := all.find? fun criterion => criterion.name == s

theorem mem_all (criterion : Criterion) : criterion ∈ all := by
  cases criterion <;> simp [all]

theorem ofName?_name (criterion : Criterion) : ofName? criterion.name = some criterion := by
  cases criterion <;> decide

end Criterion

namespace Comparison

/-- All comparisons, in the order complaints list them. -/
def all : List Comparison := [equals, notEquals, greaterThan, lessThan]

/-- The written name of a comparison. -/
def name : Comparison -> String
  | equals => "equals"
  | notEquals => "not_equals"
  | greaterThan => "greater_than"
  | lessThan => "less_than"

/-- The comparison of a written name. -/
def ofName? (s : String) : Option Comparison := all.find? fun comparison => comparison.name == s

theorem ofName?_name (comparison : Comparison) : ofName? comparison.name = some comparison := by
  cases comparison <;> decide

/-- The spelled-out form of a comparison. -/
def display : Comparison -> String
  | equals => "<ConditionOperator.EQUALS: 'equals'>"
  | notEquals => "<ConditionOperator.NOT_EQUALS: 'not_equals'>"
  | greaterThan => "<ConditionOperator.GREATER_THAN: 'greater_than'>"
  | lessThan => "<ConditionOperator.LESS_THAN: 'less_than'>"

end Comparison

/-- Categories compare for equality only; ranked and counted values also by order. -/
def Scale.allows : Scale -> Comparison -> Bool
  | .categorical, .equals => true
  | .categorical, .notEquals => true
  | .categorical, _ => false
  | _, .notEquals => false
  | _, _ => true

/-- What a condition compares with. -/
inductive Operand where
  | text (s : String)
  | number (q : Quantity)
deriving Repr, Inhabited

namespace Operand

def toValue : Operand -> Value
  | text s => .text s
  | number q => .number q

/-- Equal operands; the not-a-number equals nothing. -/
def same : Operand -> Operand -> Bool
  | text a, text b => a == b
  | number a, number b => a.same b
  | _, _ => false

/-- A number given as such or written as text. -/
def numberOf? : Value -> Option Quantity
  | .number q => some q
  | .text s =>
      let trimmed := Text.trim s
      if !trimmed.isEmpty && trimmed.toList.all Text.isDigit then
        (Number.readInt s).toOption.map .whole
      else (Number.readFloat? s).map .real
  | _ => none

/-- Checks the operand of a numeric criterion. -/
def checkNumber (criterion : Criterion) (value : Value) : Field.Checked Operand :=
  match numberOf? value with
  | none =>
      .fault (.rejected ("'" ++ criterion.name ++ "' requires a number, got " ++ value.literal))
        value
  | some q =>
      if q.lt (.whole 0) then
        .fault (.rejected ("'" ++ criterion.name ++ "' must be non-negative, got " ++ q.text))
          value
      else .good (.number q)

/-- Checks the operand of a criterion that compares texts. -/
def checkText (criterion : Criterion) (value : Value) : Field.Checked Operand :=
  match value with
  | .text s =>
      if Text.allBlank s then
        .fault (.rejected
          ("'" ++ criterion.name ++ "' requires a non-empty string, got " ++ value.literal)) value
      else .good (.text (Text.trim s))
  | _ =>
      .fault (.rejected
        ("'" ++ criterion.name ++ "' requires a non-empty string, got " ++ value.literal)) value

/-- Checks the operand of a criterion; truth values and nothing are never operands. -/
def check (criterion : Criterion) (value : Value) : Field.Checked Operand :=
  match value with
  | .null =>
      .fault (.rejected ("Invalid value for '" ++ criterion.name ++ "': " ++ value.literal)) value
  | .bool _ =>
      .fault (.rejected ("Invalid value for '" ++ criterion.name ++ "': " ++ value.literal)) value
  | _ =>
      match criterion.scale with
      | .numeric => checkNumber criterion value
      | _ => checkText criterion value

end Operand

/-- A condition of a rule. -/
structure Condition where
  criterion : Criterion
  comparison : Comparison
  operand : Operand
deriving Repr, Inhabited

namespace Condition

/-- The name of the record in complaints. -/
def modelName : String := "RuleCondition"

/-- Refuses a comparison that the criterion does not allow. -/
def checkComparison (record : Value) (condition : Condition) : Field.Checked Condition :=
  if condition.criterion.scale.allows condition.comparison then .good condition
  else .fault (.rejected ("Operator '" ++ condition.comparison.name ++
    "' is not allowed for field '" ++ condition.criterion.name ++ "'")) record

/-- Checks the operand where the criterion is known; where it is not, any operand passes. -/
def checkOperand (criterion : Field.Checked Criterion) (value : Value) : Field.Checked Operand :=
  match criterion with
  | .good known => Operand.check known value
  | _ => .good (.text "")

/-- Checks a condition given as a record. -/
def check (record : Value) : Field.Checked Condition :=
  let criterion := Field.required record "field" (Field.choice Criterion.all Criterion.name)
  let comparison := Field.required record "operator" (Field.choice Comparison.all Comparison.name)
  let operand := Field.required record "value" (checkOperand criterion)
  (Condition.mk <$> criterion <*> comparison <*> operand).andThen (checkComparison record)

/-- Builds a condition from a record. -/
def make (record : Value) : Except Failure Condition := (check record).outcome modelName

/-- A condition as a record. -/
def toValue (condition : Condition) : Value :=
  .record [
    ("field", .text condition.criterion.name),
    ("operator", .text condition.comparison.name),
    ("value", condition.operand.toValue)]

/-- Equal conditions. -/
def same (a b : Condition) : Bool :=
  a.criterion == b.criterion && a.comparison == b.comparison && a.operand.same b.operand

end Condition
end Triage
