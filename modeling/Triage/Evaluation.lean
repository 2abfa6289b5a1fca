import Triage.Condition.Draft
import Triage.Vocabulary

namespace Triage

/-!
Evaluation of one condition on one ticket at one instant.

Evaluation is a function of condition, ticket, instant and priority order.  It either answers
or says why the condition has no answer; whoever matches rules takes the latter for a no.
-/

/-- Why a condition has no answer on a ticket. -/
inductive EvaluationFault where
  | unknownCriterion (found : Value)
  | disallowed (criterion : Criterion) (found : Naming Comparison)
  | textExpected (criterion : Criterion) (found : Value)
  | numberExpected (criterion : Criterion) (found : Value)
  | unrankedTicket (priority : String)
  | unrankedOperand (priority : String)

namespace EvaluationFault

/-- The wording of a fault. -/
def message : EvaluationFault -> String
  | .unknownCriterion found => "Unknown field: " ++ found.literal
  | .disallowed criterion found =>
      let shown := match found with
        | .known comparison => comparison.display
        | .unknown value => value.literal
      "Operator " ++ shown ++ " is not allowed for field '" ++ criterion.name ++ "'"
  | .textExpected .priority found => "Priority expects a string value, got " ++ found.literal
  | .textExpected criterion found =>
      "Field '" ++ criterion.name ++ "' expects a string value, got " ++ found.literal
  | .numberExpected criterion found =>
      "Field '" ++ criterion.name ++ "' expects a number, got " ++ found.literal
  | .unrankedTicket priority => "Ticket priority " ++ Text.quoted priority ++ " has no rank"
  | .unrankedOperand priority => "Condition priority " ++ Text.quoted priority ++ " has no rank"

end EvaluationFault

/-- The attribute behind a criterion that compares texts. -/
def Criterion.toAttribute? : Criterion -> Option Attribute
  | .status => some .status
  | .priority => some .priority
  | .assignee => some .assignee
  | .company => some .company
  | .category => some .category
  | .ageDays => none
  | .hoursSinceUpdate => none

/-- Compares two texts for equality; other comparisons never hold of texts. -/
def Comparison.ofTexts (comparison : Comparison) (actual expected : String) : Bool :=
  match comparison with
  | .equals => actual == expected
  | .notEquals => actual != expected
  | _ => false

/-- Compares two ranks. -/
def Comparison.ofRanks (comparison : Comparison) (actual expected : Nat) : Bool :=
  match comparison with
  | .greaterThan => expected < actual
  | .lessThan => actual < expected
  | .equals => actual == expected
  | .notEquals => actual != expected

/-- Compares a count with a quantity; nothing but difference holds of the not-a-number. -/
def Comparison.ofCount (comparison : Comparison) (actual : Nat) (expected : Quantity) : Bool :=
  match comparison with
  | .equals => (Quantity.whole actual).same expected
  | .notEquals => !(Quantity.whole actual).same expected
  | .greaterThan => expected.lt (.whole actual)
  | .lessThan => (Quantity.whole actual).lt expected

namespace Ticket

/-- The count behind a criterion that compares numbers. -/
def elapsed (ticket : Ticket) (criterion : Criterion) (now : Instant) : Nat :=
  match criterion with
  | .ageDays => ticket.createdAt.wholeDays now
  | _ => ticket.updatedAt.instant.wholeHours now

end Ticket

namespace Condition

/-- Compares the priority of a ticket: by text for equality, by rank for order. -/
def comparePriority (scale : PriorityScale) (comparison : Comparison) (actual expected : String) :
    Except EvaluationFault Bool :=
  if comparison == .equals then .ok (actual == expected)
  else match scale.rank? actual, scale.rank? expected with
    | none, _ => .error (.unrankedTicket actual)
    | some _, none => .error (.unrankedOperand expected)
    | some actualRank, some expectedRank => .ok (comparison.ofRanks actualRank expectedRank)

/-- Compares a criterion of a ticket, by an allowed comparison, with any value. -/
def compareWith (scale : PriorityScale) (criterion : Criterion) (comparison : Comparison)
    (operand : Value) (ticket : Ticket) (now : Instant) : Except EvaluationFault Bool :=
  match criterion.toAttribute?, operand with
  | some .priority, .text expected =>
      comparePriority scale comparison (ticket.reading .priority) expected
  | some a, .text expected => .ok (comparison.ofTexts (ticket.reading a) expected)
  | some _, other => .error (.textExpected criterion other)
  | none, .number expected => .ok (comparison.ofCount (ticket.elapsed criterion now) expected)
  | none, other => .error (.numberExpected criterion other)

def Draft.evaluate (draft : Draft) (scale : PriorityScale) (ticket : Ticket) (now : Instant) :
    Except EvaluationFault Bool :=
  match draft.criterion, draft.comparison with
  | .unknown found, _ => .error (.unknownCriterion found)
  | .known criterion, .unknown found => .error (.disallowed criterion (.unknown found))
  | .known criterion, .known comparison =>
      if criterion.scale.allows comparison then
        compareWith scale criterion comparison draft.operand ticket now
      else .error (.disallowed criterion (.known comparison))

def evaluate (condition : Condition) (scale : PriorityScale) (ticket : Ticket) (now : Instant) :
    Except EvaluationFault Bool :=
  condition.toDraft.evaluate scale ticket now

def answeredYes : Except EvaluationFault Bool -> Bool
  | .ok answer => answer
  | .error _ => false

/-- Whether a condition holds; one without an answer does not. -/
def holds (condition : Condition) (scale : PriorityScale) (ticket : Ticket) (now : Instant) :
    Bool :=
  answeredYes (condition.evaluate scale ticket now)

/-- An evaluation fault with the ticket and the condition it is about. -/
def Draft.failure (draft : Draft) (ticket : Ticket) (fault : EvaluationFault) : Failure :=
  .raised .evaluation fault.message (some "ConditionEvaluator") [
    ("ticket_id", .text ticket.id),
    ("field", .text (draft.criterion.display Criterion.name)),
    ("operator", .text (draft.comparison.display Comparison.name)),
    ("value", draft.operand)]

end Condition
end Triage
