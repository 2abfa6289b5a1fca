import Triage.Database.Statement
import Triage.Execution
import Triage.Json.Reader
import Triage.Rule
import Triage.Value.Conversion

namespace Triage
namespace Database

/-!
The tables.

There is one table for tickets, one for rules, one for executions and one for the version of
the schema.  A table that was dropped is no longer there, and every statement on it is refused.
-/

/-! ## Documents

A column may hold a structured value.  What the engine stores there it reads back as the value it
stored.  Somebody else may have put any text there, which then has to be read as JSON.
-/

/-- A column with a structured value. -/
inductive Document where
  | value (v : Value)
  | text (s : String)
deriving Inhabited

namespace Document

def read : Document -> Except Failure Value
  | .value v => .ok v
  | .text s => (Json.read s).mapError fun fault => .badValue (fault.message s)

/-- A document from the cell of a text column, if the cell is not empty. -/
def ofCell? (cell : Cell) : Option Document :=
  match cell.inTextColumn with
  | .text s => some (.text s)
  | _ => none

/-- The value of one more thing that has to be a mapping to be built from. -/
def mappingFor (model : String) (value : Value) : Except Failure Value :=
  match value with
  | .mapping _ => .ok value
  | other => .error (.wrongType
      (model ++ "() argument after ** must be a mapping, not " ++ other.kindName))

/-- Reads a document as a list of things built from mappings, one after another. -/
def readAll {A : Type} (model : String) (make : Value -> Except Failure A)
    (document : Document) : Except Failure (List A) := do
  let items <- Value.toItems (<- document.read)
  items.mapM fun item => do make (<- mappingFor model item)

end Document
/-! ## Rows -/

/-- A row of the table of tickets. -/
structure TicketRow where
  id : Cell
  subject : Cell
  status : Cell
  priority : Cell
  assignee : Cell
  company : Cell
  category : Cell
  createdAt : Cell
  updatedAt : Cell
deriving Inhabited

/-- A row of the table of rules. -/
structure RuleRow where
  id : Cell
  name : Cell
  description : Cell
  conditions : Document
  actions : Document
  isActive : Cell
  version : Cell
  createdAt : Cell
  updatedAt : Cell
  lastExecutedAt : Cell
deriving Inhabited

/-- A row of the table of executions. -/
structure ExecutionRow where
  recordId : Cell
  cycleId : Cell
  ruleId : Cell
  ruleVersion : Cell
  ticketId : Cell
  matchedAt : Cell
  actions : Document
  outcome : Cell
  supersededBy : Cell
  error : Cell
deriving Inhabited

/-- All tables; the rows of a table stand in the order in which they were added. -/
structure Tables where
  tickets : Option (List TicketRow)
  rules : Option (List RuleRow)
  executions : Option (List ExecutionRow)
  versions : Option (List Int)
deriving Inhabited

namespace Tables

/-- A database without tables. -/
def none_ : Tables := ⟨none, none, none, none⟩

def schemaVersion : Int := 1

/-- The name of the table of tickets. -/
def ticketTable : String := "tickets"

/-- The name of the table of rules. -/
def ruleTable : String := "rules"

/-- The name of the table of executions. -/
def executionTable : String := "execution_records"

/-- The name of the table with the version of the schema. -/
def versionTable : String := "schema_version"

/-- The rows of a table that has to be there. -/
def rowsOf {R : Type} (name : String) (rows : Option (List R)) : Except Fault (List R) :=
  match rows with
  | some rows => .ok rows
  | none => .error (.noTable name)

/-- The rows of the table of tickets. -/
def ticketRows (tables : Tables) : Except Fault (List TicketRow) :=
  rowsOf ticketTable tables.tickets

def ruleRows (tables : Tables) : Except Fault (List RuleRow) := rowsOf ruleTable tables.rules

/-- The rows of the table of executions. -/
def executionRows (tables : Tables) : Except Fault (List ExecutionRow) :=
  rowsOf executionTable tables.executions

/-- Whether every table is there. -/
def isComplete (tables : Tables) : Bool :=
  tables.tickets.isSome && tables.rules.isSome && tables.executions.isSome &&
    (tables.versions.map fun versions => !versions.isEmpty).getD false

/-- Adds the tables that are not there. -/
def completed (tables : Tables) : Tables where
  tickets := some (tables.tickets.getD [])
  rules := some (tables.rules.getD [])
  executions := some (tables.executions.getD [])
  versions :=
    let versions := tables.versions.getD []
    some (if versions.isEmpty then [schemaVersion] else versions)

/-- How many rows the table of a name has; capital letters make no difference to names. -/
def rowCount (tables : Tables) (name : String) : Except Fault Nat :=
  let plain := String.ofList (name.toList.map Number.lowerPlain)
  let count {R : Type} (rows : Option (List R)) : Except Fault Nat :=
    (rowsOf name rows).map List.length
  if plain == ticketTable then count tables.tickets
  else if plain == ruleTable then count tables.rules
  else if plain == executionTable then count tables.executions
  else if plain == versionTable then count tables.versions
  else .error (.noTable name)

/-- Takes the table of a name away. -/
def dropped (tables : Tables) (name : String) : Except Fault (Unit × Tables) := do
  let _ <- tables.rowCount name
  let plain := String.ofList (name.toList.map Number.lowerPlain)
  let keep {R : Type} (table : String) (rows : Option (List R)) : Option (List R) :=
    if plain == table then none else rows
  pure ((), {
    tickets := keep ticketTable tables.tickets
    rules := keep ruleTable tables.rules
    executions := keep executionTable tables.executions
    versions := keep versionTable tables.versions })

end Tables

/-- Refuses an empty cell in a column that needs one. -/
def requireCell (column : String) (cell : Cell) : Except Fault Unit :=
  if cell.isNull then .error (.missing column) else .ok ()

/-! ## Tickets -/

namespace TicketRow

/-- The columns in their order. -/
def columns : String :=
  "id, subject, status, priority, assignee, company, type, created_at, updated_at"

def ofTicket (ticket : Ticket) : TicketRow where
  id := .text ticket.id
  subject := .text ticket.subject
  status := Cell.ofText? ticket.status
  priority := Cell.ofText? ticket.priority
  assignee := Cell.ofText? ticket.assignee
  company := Cell.ofText? ticket.company
  category := Cell.ofText? ticket.category
  createdAt := .text ticket.createdAt.text
  updatedAt := .text ticket.updatedAt.text

/-- Replaces one aspect. -/
def set (row : TicketRow) (aspect : Aspect) (value : Cell) : TicketRow :=
  match aspect with
  | .status => { row with status := value }
  | .priority => { row with priority := value }
  | .assignee => { row with assignee := value }

/-- Whether two rows have the same id; an empty id is like no other. -/
def sameId (a b : TicketRow) : Bool :=
  match a.id, b.id with
  | .text s, .text t => s == t
  | _, _ => false

/-- The order of creation, the id deciding between equal texts. -/
def order (a b : TicketRow) : Ordering :=
  (a.createdAt.order b.createdAt).then (a.id.order b.id)

/-- Checks the columns that may not be empty. -/
def check (row : TicketRow) : Except Fault Unit := do
  requireCell "tickets.created_at" row.createdAt
  requireCell "tickets.updated_at" row.updatedAt

end TicketRow

/-! ## Rules -/

namespace RuleRow

/-- The columns in their order. -/
def columns : String :=
  "id, name, description, trigger_conditions, actions, is_active, version, " ++
    "created_at, updated_at, last_executed_at"

def conditionsOf (rule : Rule) : Document :=
  .value (.list (rule.conditions.map Condition.toValue))

def actionsOf (rule : Rule) : Document := .value (.list (rule.actions.map Action.toValue))

/-- A truth value as a cell. -/
def flag (b : Bool) : Cell := .whole (if b then 1 else 0)

/-- A moment that may be missing as a cell. -/
def moment (instant : Option Instant) : Cell := Cell.ofText? (instant.map Instant.text)

/-- The row of a rule; one that was never changed counts as changed when it was created. -/
def ofRule (rule : Rule) : Except Fault RuleRow := do
  let version <- Cell.ofInt rule.version
  pure {
    id := .text rule.id
    name := .text rule.name
    description := .text rule.description
    conditions := conditionsOf rule
    actions := actionsOf rule
    isActive := flag rule.isActive
    version := version
    createdAt := .text rule.createdAt.text
    updatedAt := .text (rule.updatedAt.getD rule.createdAt).text
    lastExecutedAt := moment rule.lastExecutedAt }

/-- The order of creation, the id deciding between equal texts. -/
def order (a b : RuleRow) : Ordering :=
  (a.createdAt.order b.createdAt).then (a.id.order b.id)

def isActiveRow (row : RuleRow) : Bool :=
  match row.isActive with
  | .whole n => n == 1
  | _ => false

end RuleRow

/-! ## Executions -/

namespace ExecutionRow

/-- The columns in their order. -/
def columns : String :=
  "record_id, cycle_id, rule_id, rule_version, ticket_id, matched_at, " ++
    "actions_applied, outcome, superseded_by, error"

def ofExecution (execution : Execution) : Except Fault ExecutionRow := do
  let version <- Cell.ofInt execution.ruleVersion
  pure {
    recordId := .text execution.recordId
    cycleId := Cell.ofText? execution.cycleId
    ruleId := .text execution.ruleId
    ruleVersion := version
    ticketId := .text execution.ticketId
    matchedAt := .text execution.matchedAt.text
    actions := .value (.list (execution.actions.map Action.toValue))
    outcome := .text execution.outcome.name
    supersededBy := Cell.ofText? execution.supersededBy
    error := Cell.ofText? execution.error }

/-- Whether two rows have the same id. -/
def sameId (a b : ExecutionRow) : Bool :=
  match a.recordId, b.recordId with
  | .text s, .text t => s == t
  | _, _ => false

end ExecutionRow

/-! ## Rows that somebody else writes -/

/-- Reads the values of columns in turn, counted from one. -/
def cellAt (values : String -> Value) (position : Nat) (column : String) : Except Fault Cell :=
  Cell.ofValue position (values column)

/-- A document that may not be empty, from a cell. -/
def documentIn (column : String) (cell : Cell) : Except Fault Document :=
  match Document.ofCell? cell with
  | some document => .ok document
  | none => .error (.missing column)

/-- A row of tickets from values by column. -/
def TicketRow.ofValues (values : String -> Value) : Except Fault TicketRow := do
  let text (position : Nat) (column : String) : Except Fault Cell :=
    (cellAt values position column).map Cell.inTextColumn
  pure {
    id := <- text 1 "id"
    subject := <- text 2 "subject"
    status := <- text 3 "status"
    priority := <- text 4 "priority"
    assignee := <- text 5 "assignee"
    company := <- text 6 "company"
    category := <- text 7 "type"
    createdAt := <- text 8 "created_at"
    updatedAt := <- text 9 "updated_at" }

/-- A row of rules from values by column; a missing flag and a missing version are one. -/
def RuleRow.ofValues (values : String -> Value) : Except Fault RuleRow := do
  let text (position : Nat) (column : String) : Except Fault Cell :=
    (cellAt values position column).map Cell.inTextColumn
  let whole (position : Nat) (column : String) : Except Fault Cell :=
    (cellAt values position column).map fun cell =>
      if cell.isNull then .whole 1 else cell.inWholeColumn
  let id <- text 1 "id"
  let name <- text 2 "name"
  let description <- text 3 "description"
  let conditions <- text 4 "trigger_conditions"
  let actions <- text 5 "actions"
  let isActive <- whole 6 "is_active"
  let version <- whole 7 "version"
  let createdAt <- text 8 "created_at"
  let updatedAt <- text 9 "updated_at"
  let lastExecutedAt <- text 10 "last_executed_at"
  requireCell "rules.name" name
  let conditions <- documentIn "rules.trigger_conditions" conditions
  let actions <- documentIn "rules.actions" actions
  requireCell "rules.created_at" createdAt
  requireCell "rules.updated_at" updatedAt
  pure ⟨id, name, description, conditions, actions, isActive, version, createdAt, updatedAt,
    lastExecutedAt⟩

/-- A row of executions from values by column. -/
def ExecutionRow.ofValues (values : String -> Value) : Except Fault ExecutionRow := do
  let text (position : Nat) (column : String) : Except Fault Cell :=
    (cellAt values position column).map Cell.inTextColumn
  let recordId <- text 1 "record_id"
  let cycleId <- text 2 "cycle_id"
  let ruleId <- text 3 "rule_id"
  let version <- (cellAt values 4 "rule_version").map Cell.inWholeColumn
  let ticketId <- text 5 "ticket_id"
  let matchedAt <- text 6 "matched_at"
  let actions <- text 7 "actions_applied"
  let outcome <- text 8 "outcome"
  let supersededBy <- text 9 "superseded_by"
  let error <- text 10 "error"
  requireCell "execution_records.record_id" recordId
  requireCell "execution_records.rule_id" ruleId
  requireCell "execution_records.rule_version" version
  requireCell "execution_records.ticket_id" ticketId
  requireCell "execution_records.matched_at" matchedAt
  let actions <- documentIn "execution_records.actions_applied" actions
  requireCell "execution_records.outcome" outcome
  pure ⟨recordId, cycleId, ruleId, version, ticketId, matchedAt, actions, outcome, supersededBy,
    error⟩

end Database
end Triage
