import Triage.Database.Tables

namespace Triage
namespace Database

/-!
Statements on the table of executions, which only ever grows.
-/

namespace ExecutionTable

/-- Adds a row with an id of its own. -/
def insertRow (row : Except Fault ExecutionRow) : Statement Tables Unit :=
  .changing ("INSERT INTO execution_records (" ++ ExecutionRow.columns ++ ")") fun tables => do
    let rows <- tables.executionRows
    let row <- row
    if rows.any row.sameId then .error (.repeated "execution_records.record_id")
    else .ok ((), { tables with executions := some (rows ++ [row]) })

/-- Adds an execution. -/
def insert (execution : Execution) : Statement Tables Unit :=
  insertRow (ExecutionRow.ofExecution execution)

/-- What executions are asked for; a missing filter lets everything pass. -/
structure Filter where
  ruleId : Option String
  ticketId : Option String
  outcome : Option String
  cycleId : Option String
deriving Inhabited

/-- Whether a cell passes a filter. -/
def Filter.admits (wanted : Option String) (cell : Cell) : Bool :=
  match wanted with
  | none => true
  | some s => cell.isText s

/-- Whether a row passes. -/
def Filter.test (filter : Filter) (row : ExecutionRow) : Bool :=
  Filter.admits filter.ruleId row.ruleId && Filter.admits filter.ticketId row.ticketId &&
    Filter.admits filter.outcome row.outcome && Filter.admits filter.cycleId row.cycleId

/-- The executions that pass, the newest first. -/
def select (filter : Filter) (limit : Int) : Statement Tables (List ExecutionRow) :=
  .reading ("SELECT " ++ ExecutionRow.columns ++ " FROM execution_records") fun tables => do
    let rows <- tables.executionRows
    limited (some limit) (rows.reverse.filter filter.test)

/-- How many executions there are of each outcome, in the order in which they came up. -/
def countOutcomes (ruleId : Option String) : Statement Tables (List (Cell × Nat)) :=
  .reading "SELECT outcome, COUNT(*) FROM execution_records" fun tables => do
    let rows <- tables.executionRows
    let outcomes := (rows.filter fun row => Filter.admits ruleId row.ruleId).map ExecutionRow.outcome
    pure (outcomes.foldl
      (fun counts outcome =>
        if counts.any fun entry => (entry.1.order outcome) == .eq then
          counts.map fun entry =>
            if (entry.1.order outcome) == .eq then (entry.1, entry.2 + 1) else entry
        else counts ++ [(outcome, 1)])
      [])

end ExecutionTable
end Database
end Triage
