import Triage.Database.Tables
import Triage.Json.Writer

namespace Triage
namespace Database

/-!
Tables as a text.

Between two runs of the program the tables are kept as JSON.  A text that does not hold tables
is refused as a whole.
-/

namespace Cell

/-- The cell of a value that a cell can hold. -/
def ofStored? : Value -> Option Cell
  | .null => some .null
  | .number (.whole n) => some (.whole n)
  | .number (.real x) => some (.real x)
  | .text s => some (.text s)
  | _ => none

/-- What a cell holds is kept. -/
theorem ofStored?_toValue (cell : Cell) : ofStored? cell.toValue = some cell := by
  cases cell <;> rfl

end Cell

namespace Document

/-- A document as a value: a text, which holds JSON. -/
def toStored : Document -> Value
  | .value v => .text (Json.write v)
  | .text s => .text s

def ofStored? : Value -> Option Document
  | .text s => some (.text s)
  | _ => none

end Document

/-- A row of tickets as a list of cells. -/
def TicketRow.toStored (row : TicketRow) : Value :=
  .list ([row.id, row.subject, row.status, row.priority, row.assignee, row.company, row.category,
    row.createdAt, row.updatedAt].map Cell.toValue)

/-- The row of tickets that a list of cells makes. -/
def TicketRow.ofStored? (value : Value) : Option TicketRow := do
  match <- (<- value.asList?).mapM Cell.ofStored? with
  | [id, subject, status, priority, assignee, company, category, createdAt, updatedAt] =>
      some ⟨id, subject, status, priority, assignee, company, category, createdAt, updatedAt⟩
  | _ => none

/-- A row of tickets is kept. -/
theorem TicketRow.ofStored?_toStored (row : TicketRow) : ofStored? row.toStored = some row := by
  simp [toStored, ofStored?, Value.asList?, Cell.ofStored?_toValue]

/-- A row of rules as a list of cells and documents. -/
def RuleRow.toStored (row : RuleRow) : Value :=
  .list [row.id.toValue, row.name.toValue, row.description.toValue, row.conditions.toStored,
    row.actions.toStored, row.isActive.toValue, row.version.toValue, row.createdAt.toValue,
    row.updatedAt.toValue, row.lastExecutedAt.toValue]

/-- The row of rules that a list makes. -/
def RuleRow.ofStored? (value : Value) : Option RuleRow := do
  match <- value.asList? with
  | [id, name, description, conditions, actions, isActive, version, createdAt, updatedAt,
      lastExecutedAt] =>
      pure {
        id := <- Cell.ofStored? id
        name := <- Cell.ofStored? name
        description := <- Cell.ofStored? description
        conditions := <- Document.ofStored? conditions
        actions := <- Document.ofStored? actions
        isActive := <- Cell.ofStored? isActive
        version := <- Cell.ofStored? version
        createdAt := <- Cell.ofStored? createdAt
        updatedAt := <- Cell.ofStored? updatedAt
        lastExecutedAt := <- Cell.ofStored? lastExecutedAt }
  | _ => none

/-- A row of executions as a list of cells and documents. -/
def ExecutionRow.toStored (row : ExecutionRow) : Value :=
  .list [row.recordId.toValue, row.cycleId.toValue, row.ruleId.toValue, row.ruleVersion.toValue,
    row.ticketId.toValue, row.matchedAt.toValue, row.actions.toStored, row.outcome.toValue,
    row.supersededBy.toValue, row.error.toValue]

/-- The row of executions that a list makes. -/
def ExecutionRow.ofStored? (value : Value) : Option ExecutionRow := do
  match <- value.asList? with
  | [recordId, cycleId, ruleId, ruleVersion, ticketId, matchedAt, actions, outcome, supersededBy,
      error] =>
      pure {
        recordId := <- Cell.ofStored? recordId
        cycleId := <- Cell.ofStored? cycleId
        ruleId := <- Cell.ofStored? ruleId
        ruleVersion := <- Cell.ofStored? ruleVersion
        ticketId := <- Cell.ofStored? ticketId
        matchedAt := <- Cell.ofStored? matchedAt
        actions := <- Document.ofStored? actions
        outcome := <- Cell.ofStored? outcome
        supersededBy := <- Cell.ofStored? supersededBy
        error := <- Cell.ofStored? error }
  | _ => none

namespace Tables

/-- The rows of a table that may not be there, as a value. -/
def rowsToStored {R : Type} (row : R -> Value) : Option (List R) -> Value
  | some rows => .list (rows.map row)
  | none => .null

/-- The rows of a table that a value makes. -/
def rowsOfStored? {R : Type} (row : Value -> Option R) : Value -> Option (Option (List R))
  | .null => some none
  | .list items => (items.mapM row).map some
  | _ => none

/-- Tables as a record. -/
def toStored (tables : Tables) : Value :=
  .record [
    (ticketTable, rowsToStored TicketRow.toStored tables.tickets),
    (ruleTable, rowsToStored RuleRow.toStored tables.rules),
    (executionTable, rowsToStored ExecutionRow.toStored tables.executions),
    (versionTable, rowsToStored Value.int tables.versions)]

def versionOf? : Value -> Option Int
  | .number (.whole n) => some n
  | _ => none

/-- The tables that a record makes. -/
def ofStored? (value : Value) : Option Tables := do
  pure {
    tickets := <- rowsOfStored? TicketRow.ofStored? (<- value.get? ticketTable)
    rules := <- rowsOfStored? RuleRow.ofStored? (<- value.get? ruleTable)
    executions := <- rowsOfStored? ExecutionRow.ofStored? (<- value.get? executionTable)
    versions := <- rowsOfStored? versionOf? (<- value.get? versionTable) }

def toText (tables : Tables) : String := Json.write tables.toStored

/-- The tables that a text holds. -/
def ofText? (text : String) : Option Tables := (Json.read text).toOption.bind ofStored?

end Tables
end Database
end Triage
