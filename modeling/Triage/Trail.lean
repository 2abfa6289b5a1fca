import Triage.Database
import Triage.Database.ExecutionTable
import Triage.Report
import Triage.Time.Written

namespace Triage

/-!
The audit trail.

The trail is a list of executions that only ever grows.  Nothing in the engine changes or takes
away an entry.
-/

namespace Trail

/-- The component that keeps the trail. -/
def component : String := "AUDIT_LOG_V1"

/-- Passes on a failure of the database as one of the trail. -/
def auditFailure (what : String) (context : List (String × Value)) (failure : Failure) : Failure :=
  if failure.isDatabase then
    .raised .audit ("Failed to " ++ what ++ ": " ++ failure.message) (some component) context
  else failure

/-- What a complaint about an execution shows of it. -/
def contextOf (execution : Execution) : List (String × Value) := [
  ("record_id", .text execution.recordId),
  ("rule_id", .text execution.ruleId),
  ("ticket_id", .text execution.ticketId)]

/-- Appends an execution. -/
def record (execution : Execution) : Act Database Unit :=
  (Database.Pool.update (Database.ExecutionTable.insert execution)).mapFailure
    (auditFailure "store execution record" (contextOf execution))

/-- What is asked of the trail.  An empty text asks for nothing. -/
structure Query where
  ruleId : Option String
  ticketId : Option String
  outcome : Option String
  cycleId : Option String
  limit : Int

/-- How many entries are asked for when nobody says. -/
def standardLimit : Int := 100

/-- A query from a record with its parts. -/
def Query.ofRecord (record : Value) : Query :=
  let text (name : String) : Option String := (record.get? name).bind Value.asText?
  let limit := match record.get? "limit" with
    | some (.number (.whole n)) => n
    | _ => standardLimit
  ⟨text "rule_id", text "ticket_id", text "outcome", text "cycle_id", limit⟩

/-- A text that asks for something. -/
def wanted (text : Option String) : Option String := text.filter fun s => !s.isEmpty

def unknownOutcome (name : Value) : Failure :=
  .badValue (name.literal ++ " is not a valid ExecutionOutcome")

def checkOutcome (name : Value) : Except Failure Outcome :=
  match name.asText?.bind Outcome.ofName? with
  | some outcome => .ok outcome
  | none => .error (unknownOutcome name)

def Query.filter (query : Query) : Except Failure Database.ExecutionTable.Filter := do
  let outcome <- (wanted query.outcome).mapM fun name => checkOutcome (.text name)
  pure {
    ruleId := wanted query.ruleId
    ticketId := wanted query.ticketId
    outcome := outcome.map Outcome.name
    cycleId := wanted query.cycleId }

/-- The execution of a row.  The columns are read in their order. -/
def ofRow (row : Database.ExecutionRow) : Except Failure Execution := do
  let matchedAt <- match row.matchedAt with
    | .text s => Stamp.ofText s
    | _ => .error (.wrongType "fromisoformat: argument must be str")
  let actions <- row.actions.readAll "automation.models.rule.RuleAction" Action.make
  let outcome <- checkOutcome row.outcome.toValue
  Execution.make "" (.record [
    ("record_id", row.recordId.toValue),
    ("cycle_id", row.cycleId.toValue),
    ("rule_id", row.ruleId.toValue),
    ("rule_version", row.ruleVersion.toValue),
    ("ticket_id", row.ticketId.toValue),
    ("matched_at", .stamp matchedAt),
    ("actions_applied", .list (actions.map Action.toValue)),
    ("outcome", .text outcome.name),
    ("superseded_by", row.supersededBy.toValue),
    ("error", row.error.toValue)])

/-- The executions that a query asks for, the newest first. -/
def ask (query : Query) : Act Database (List Execution) := do
  let filter <- Act.ofResult query.filter
  let rows <- (Database.Pool.query (Database.ExecutionTable.select filter query.limit)).mapFailure
    (auditFailure "query execution records" [])
  Act.ofResult (rows.mapM ofRow)

/-- The executions of a rule, the newest first. -/
def ofRule (ruleId : String) (limit : Int) : Act Database (List Execution) :=
  ask ⟨some ruleId, none, none, none, limit⟩

/-- The executions on a ticket, the newest first. -/
def ofTicket (ticketId : String) (limit : Int) : Act Database (List Execution) :=
  ask ⟨none, some ticketId, none, none, limit⟩

/-- Puts counted outcomes over the ones that always count. -/
def tally (counts : List (Database.Cell × Nat)) : Tally :=
  counts.foldl
    (fun tally entry =>
      let name := entry.1.toValue.display
      if tally.any fun other => other.1 == name then
        tally.map fun other => if other.1 == name then (name, (entry.2 : Int)) else other
      else tally ++ [(name, (entry.2 : Int))])
    Tally.zero

/-- How many executions there are of each outcome. -/
def countByOutcome (ruleId : Option String) : Act Database Tally := do
  let counts <- (Database.Pool.query
    (Database.ExecutionTable.countOutcomes (wanted ruleId))).mapFailure
      (auditFailure "count execution records" [])
  pure (tally counts)

end Trail
end Triage
