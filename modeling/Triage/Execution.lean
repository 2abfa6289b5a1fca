import Triage.Action

namespace Triage

/-!
Executions: the entries of the audit trail.

An execution says how one attempt to apply a rule to a ticket came out, and which of the
rule's actions that was about.
-/

/-- How an attempt came out. -/
inductive Outcome where
  | applied
  | skippedDuplicate
  | failed
deriving DecidableEq, Repr, Inhabited

namespace Outcome

/-- All outcomes, in their order. -/
def all : List Outcome := [applied, skippedDuplicate, failed]

/-- The written name of an outcome. -/
def name : Outcome -> String
  | applied => "applied"
  | skippedDuplicate => "skipped_duplicate"
  | failed => "failed"

/-- The outcome of a written name. -/
def ofName? (s : String) : Option Outcome := all.find? fun outcome => outcome.name == s

/-- The place of an outcome in their order. -/
def rank : Outcome -> Nat
  | applied => 0
  | skippedDuplicate => 1
  | failed => 2

theorem ofName?_name (outcome : Outcome) : ofName? outcome.name = some outcome := by
  cases outcome <;> decide

end Outcome

/-- One entry of the audit trail. -/
structure Execution where
  recordId : String
  cycleId : Option String
  ruleId : String
  ruleVersion : Int
  ticketId : String
  matchedAt : Instant
  actions : List Action
  outcome : Outcome
  supersededBy : Option String
  error : Option String
deriving DecidableEq, Repr, Inhabited

namespace Execution

/-- The name of the record in complaints. -/
def modelName : String := "ExecutionRecord"

/-- The outcome that a value has to name. -/
def readOutcome (value : Value) : Except Failure Outcome :=
  (Field.required (.record [("outcome", value)]) "outcome"
    (Field.choice Outcome.all Outcome.name)).outcome modelName

def checkActions : Value -> Field.Checked (List Action) :=
  Field.listOf fun value =>
    match value with
    | .mapping _ => Action.check value
    | _ => .fault (.record Action.modelName) value

/-- Checks an execution given as a record, whose id is made up where it has none. -/
def check (freshId : String) (record : Value) : Field.Checked Execution :=
  let optionalText (name : String) :=
    Field.optional record name none (Field.nullable Field.text)
  Execution.mk
    <$> Field.optional record "record_id" freshId Field.text
    <*> optionalText "cycle_id"
    <*> Field.required record "rule_id" Field.text
    <*> Field.required record "rule_version" Field.whole
    <*> Field.required record "ticket_id" Field.text
    <*> Field.required record "matched_at" Field.moment
    <*> Field.optional record "actions_applied" [] checkActions
    <*> Field.required record "outcome" (Field.choice Outcome.all Outcome.name)
    <*> optionalText "superseded_by"
    <*> optionalText "error"

/-- Builds an execution from a record. -/
def make (freshId : String) (record : Value) : Except Failure Execution :=
  (check freshId record).outcome modelName

/-- An execution as a record. -/
def toValue (execution : Execution) : Value :=
  .record [
    ("record_id", .text execution.recordId),
    ("cycle_id", Value.textOrNull execution.cycleId),
    ("rule_id", .text execution.ruleId),
    ("rule_version", .int execution.ruleVersion),
    ("ticket_id", .text execution.ticketId),
    ("matched_at", .text execution.matchedAt.text),
    ("actions_applied", .list (execution.actions.map Action.toValue)),
    ("outcome", .text execution.outcome.name),
    ("superseded_by", Value.textOrNull execution.supersededBy),
    ("error", Value.textOrNull execution.error)]

end Execution
end Triage
