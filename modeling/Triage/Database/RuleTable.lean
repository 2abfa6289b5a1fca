import Triage.Database.Tables

namespace Triage
namespace Database

/-!
Statements on the table of rules.
-/

namespace RuleTable

/-- Changes the rows of the table. -/
def changeRows {A : Type} (text : String)
    (change : List RuleRow -> Except Fault (A × List RuleRow)) : Statement Tables A :=
  .changing text fun tables => do
    let (answer, rows) <- change (<- tables.ruleRows)
    pure (answer, { tables with rules := some rows })

/-- Changes the rows of one id and says how many there were. -/
def changeById (text id : String) (change : RuleRow -> RuleRow) : Statement Tables Nat :=
  changeRows text fun rows =>
    .ok ((rows.filter fun row => row.id.isText id).length,
      rows.map fun row => if row.id.isText id then change row else row)

/-- What a query of rules starts with. -/
def selection : String := "SELECT " ++ RuleRow.columns ++ " FROM rules"

/-- The rules that pass a test, in the order of their creation as it is written. -/
def select (text : String) (test : RuleRow -> Bool) : Statement Tables (List RuleRow) :=
  .reading text fun tables => do
    let rows <- tables.ruleRows
    pure ((rows.filter test).mergeSort fun a b => (a.order b).isLE)

/-- All rules. -/
def selectAll : Statement Tables (List RuleRow) :=
  select (selection ++ " ORDER BY created_at, id") fun _ => true

/-- The active rules. -/
def selectActive : Statement Tables (List RuleRow) :=
  select (selection ++ " WHERE is_active = 1 ORDER BY created_at, id") RuleRow.isActiveRow

def selectById (id : String) : Statement Tables (List RuleRow) :=
  select (selection ++ " WHERE id = ?") fun row => row.id.isText id

/-- Adds a rule with an id of its own. -/
def insert (rule : Rule) : Statement Tables Unit :=
  changeRows ("INSERT INTO rules (" ++ RuleRow.columns ++ ")") fun rows => do
    let row <- RuleRow.ofRule rule
    if rows.any fun other => other.id.isText rule.id then .error (.repeated "rules.id")
    else .ok ((), rows ++ [row])

/-- Adds a row or puts it in the place of the one with its id. -/
def put (row : Except Fault RuleRow) : Statement Tables Unit :=
  changeRows ("INSERT INTO rules (" ++ RuleRow.columns ++ ")") fun rows => do
    let row <- row
    let isSame (other : RuleRow) : Bool := match row.id with
      | .text s => other.id.isText s
      | _ => false
    pure ((), if rows.any isSame then rows.map fun other => if isSame other then row else other
      else rows ++ [row])

/-- Writes a changed definition. -/
def changeDefinition (rule : Rule) : Statement Tables Unit :=
  changeRows "UPDATE rules SET name = ?" fun rows => do
    let changed <- RuleRow.ofRule rule
    pure ((), rows.map fun row =>
      if row.id.isText rule.id then
        { row with
          name := changed.name
          description := changed.description
          conditions := changed.conditions
          actions := changed.actions
          version := changed.version
          updatedAt := RuleRow.moment rule.updatedAt }
      else row)

/-- Switches a rule on or off. -/
def setActive (id : String) (isActive : Bool) : Statement Tables Nat :=
  changeById "UPDATE rules SET is_active = ? WHERE id = ?" id fun row =>
    { row with isActive := RuleRow.flag isActive }

/-- Takes a rule away and says how many rows that were. -/
def delete (id : String) : Statement Tables Nat :=
  changeRows "DELETE FROM rules WHERE id = ?" fun rows =>
    .ok ((rows.filter fun row => row.id.isText id).length,
      rows.filter fun row => !row.id.isText id)

/-- Notes when rules were executed, and says how many of them there are. -/
def markExecuted (ids : List String) (executedAt : Instant) : Statement Tables Nat :=
  let isMarked (row : RuleRow) : Bool := ids.any fun id => row.id.isText id
  { changeRows "UPDATE rules SET last_executed_at = ? WHERE id = ?" fun rows =>
      .ok ((rows.filter isMarked).length,
        rows.map fun row =>
          if isMarked row then { row with lastExecutedAt := .text executedAt.text } else row)
    with batch := some ids.length }

end RuleTable
end Database
end Triage
