import Triage.Execution
import Triage.Time.Written

namespace Triage

/-!
Reports: what one cycle did.

A report counts the executions of its cycle by outcome.  The counts are kept by name, in the
order in which the names came up.
-/

/-- Counts by name. -/
abbrev Tally := List (String × Int)

namespace Tally

/-- The count of a name. -/
def get (tally : Tally) (name : String) : Int := (tally.lookup name).getD 0

/-- Counts one more of a name. -/
def count (tally : Tally) (name : String) : Tally :=
  if tally.any fun entry => entry.1 == name then
    tally.map fun entry => if entry.1 == name then (name, entry.2 + 1) else entry
  else tally ++ [(name, 1)]

/-- No execution of any outcome. -/
def zero : Tally := Outcome.all.map fun outcome => (outcome.name, 0)

/-- Checks counts given as a record. -/
def check (value : Value) : Field.Checked Tally :=
  match value with
  | .mapping entries =>
      entries.foldr
        (fun entry rest =>
          let step := entry.1.display
          List.cons
            <$> (Prod.mk
              <$> ((Field.text entry.1).under "[key]").under step
              <*> (Field.whole entry.2).under step)
            <*> rest)
        (.good [])
  | other => .fault .mapping other

/-- Counts as a record. -/
def toValue (tally : Tally) : Value := .record (tally.map fun entry => (entry.1, .int entry.2))

end Tally

/-- The report of one cycle. -/
structure Report where
  cycleId : String
  trigger : String
  startedAt : Stamp
  finishedAt : Option Stamp
  rulesEvaluated : Int
  ticketsFetched : Int
  ticketsEvaluated : Int
  ticketsMatched : Int
  ticketsDeferred : Int
  ticketsFailed : Int
  outcomes : Tally
  executedRuleIds : List String
  auditFailures : Int
  cancelled : Bool
  aborted : Bool
  error : Option String
deriving Inhabited

namespace Report

/-- The name of the record in complaints. -/
def modelName : String := "CycleReport"

/-- The report of a cycle that has just begun. -/
def opening (cycleId trigger : String) (startedAt : Stamp) : Report where
  cycleId := cycleId
  trigger := trigger
  startedAt := startedAt
  finishedAt := none
  rulesEvaluated := 0
  ticketsFetched := 0
  ticketsEvaluated := 0
  ticketsMatched := 0
  ticketsDeferred := 0
  ticketsFailed := 0
  outcomes := Tally.zero
  executedRuleIds := []
  auditFailures := 0
  cancelled := false
  aborted := false
  error := none

/-- Checks a report given as a record, with an id and an instant for where it has none. -/
def check (freshId : String) (now : Instant) (record : Value) : Field.Checked Report :=
  let number (name : String) := Field.optional record name 0 Field.whole
  let flag (name : String) := Field.optional record name false Field.flag
  Report.mk
    <$> Field.optional record "cycle_id" freshId Field.text
    <*> Field.optional record "trigger" "schedule" Field.text
    <*> Field.optional record "started_at" (Stamp.ofInstant now) Field.stamp
    <*> Field.optional record "finished_at" none (Field.nullable Field.stamp)
    <*> number "rules_evaluated"
    <*> number "tickets_fetched"
    <*> number "tickets_evaluated"
    <*> number "tickets_matched"
    <*> number "tickets_deferred"
    <*> number "tickets_failed"
    <*> Field.optional record "outcomes" Tally.zero Tally.check
    <*> Field.optional record "executed_rule_ids" [] (Field.listOf Field.text)
    <*> number "audit_failures"
    <*> flag "cancelled"
    <*> flag "aborted"
    <*> Field.optional record "error" none (Field.nullable Field.text)

/-- Builds a report from a record. -/
def make (freshId : String) (now : Instant) (record : Value) : Except Failure Report :=
  (check freshId now record).outcome modelName

/-- Counts an execution. -/
def count (report : Report) (outcome : Outcome) : Report :=
  { report with outcomes := report.outcomes.count outcome.name }

/-- How many executions of an outcome the cycle had. -/
def counted (report : Report) (outcome : Outcome) : Int := report.outcomes.get outcome.name

/-- How long the cycle took, in milliseconds; zero while it runs. -/
def duration (report : Report) : Except Failure Float :=
  match report.finishedAt with
  | none => .ok 0.0
  | some finished => (report.startedAt.distanceTo finished).map fun distance =>
      Quantity.ratio distance Time.second * 1000.0

/-- A report as a record; the duration has two decimal places. -/
def toValue (report : Report) : Except Failure Value := do
  let duration <- report.duration
  pure (.record [
    ("cycle_id", .text report.cycleId),
    ("trigger", .text report.trigger),
    ("started_at", .text report.startedAt.text),
    ("finished_at", Value.textOrNull (report.finishedAt.map Stamp.text)),
    ("duration_ms", .float (Number.roundTo duration 2)),
    ("rules_evaluated", .int report.rulesEvaluated),
    ("tickets_fetched", .int report.ticketsFetched),
    ("tickets_evaluated", .int report.ticketsEvaluated),
    ("tickets_matched", .int report.ticketsMatched),
    ("tickets_deferred", .int report.ticketsDeferred),
    ("tickets_failed", .int report.ticketsFailed),
    ("outcomes", report.outcomes.toValue),
    ("executed_rule_ids", .texts report.executedRuleIds),
    ("audit_failures", .int report.auditFailures),
    ("cancelled", .bool report.cancelled),
    ("aborted", .bool report.aborted),
    ("error", Value.textOrNull report.error)])

end Report
end Triage
