import Triage.Database
import Triage.Database.TicketTable
import Triage.Tickets.Store
import Triage.Time.Written

namespace Triage
namespace Tickets

/-!
Tickets kept in the database.

Rows may have been written by somebody else, so a row becomes a ticket by the checks that any
ticket has to pass, and its times may be written in any of the known ways.
-/

/-- The component that keeps tickets. -/
def component : String := "SQLiteTicketStore"

/-- A store that cannot be read. -/
def unavailable (message : String) : Failure := .of .unavailable component message

/-- The stamp that a cell holds. -/
def readStamp (cell : Database.Cell) : Except Failure Stamp :=
  match cell with
  | .text s => Stamp.ofText s
  | _ => .error (.wrongType "fromisoformat: argument must be str")

def ofRow (row : Database.TicketRow) : Except Failure Ticket := do
  let subject := row.subject.toValue
  let createdAt <- readStamp row.createdAt
  let updatedAt <- readStamp row.updatedAt
  Ticket.make (.record [
    ("id", row.id.toValue),
    ("subject", if subject.isTruthy then subject else .text ""),
    ("status", row.status.toValue),
    ("priority", row.priority.toValue),
    ("assignee", row.assignee.toValue),
    ("company", row.company.toValue),
    ("type", row.category.toValue),
    ("created_at", .stamp createdAt),
    ("updated_at", .stamp updatedAt)])

/-- What is wrong with a store whose tickets could not be listed. -/
def listingFailure (failure : Failure) : Failure :=
  if failure.isDatabase then unavailable ("Failed to list active tickets: " ++ failure.message)
  else if failure.isBadValue then unavailable ("Malformed ticket row: " ++ failure.report)
  else failure

def listOpen (closed : List String) (limit : Option Int) : Act Database (List Ticket) :=
  Act.mapFailure listingFailure do
    let rows <- Database.Pool.query (Database.TicketTable.selectOpen closed limit)
    Act.ofResult (rows.mapM ofRow)

/-- Reads the ticket of an id. -/
def find (id : String) : Act Database (Option Ticket) := do
  let row <- Database.Pool.query (Database.TicketTable.selectById id)
  Act.ofResult (row.mapM ofRow)

/-- The instant that a time of the last change says, if it can be read. -/
def readGuard (cell : Database.Cell) : Except Failure (Option Instant) :=
  match readStamp cell with
  | .error _ => .ok none
  | .ok stamp =>
      match stamp.toInstant? with
      | some instant => .ok (some instant)
      | none => .error (.outOfRange Stamp.outOfRangeMessage)

/-- What guards an update against changes meanwhile. -/
inductive Guard where
  /-- The update may be written, if the time of the last change is still written so. -/
  | open_ (written : Option Database.Cell)
  /-- The update comes too late. -/
  | shut

/-- Compares the expected time of the last change with the written one. -/
def guardOf (expected : Instant) (written : Option Database.Cell) : Except Failure Guard := do
  match written with
  | none => pure .shut
  | some cell =>
      if (<- readGuard cell) == some expected then pure (.open_ (some cell)) else pure .shut

/-- Looks at the ticket of an id before an update. -/
def lookAhead (id : String) (expected : Option Instant) (place : Nat) : Act Database Guard := do
  match expected with
  | none => pure (.open_ none)
  | some instant =>
      let written <- Database.Pool.execute (Database.TicketTable.selectUpdatedAt id) place
      Act.ofResult (guardOf instant written)

/-- Writes updates to the ticket of an id and says whether it did. -/
def change (now : Instant) (id : String) (values : List (Aspect × Option String))
    (expected : Option Instant) : Act Database Bool :=
  if values.isEmpty then pure true
  else Database.Pool.transaction fun place => do
    match <- lookAhead id expected place with
    | .shut => pure false
    | .open_ written =>
        let changed <- Database.Pool.execute
          (Database.TicketTable.change ⟨id, values, now, written⟩) place
        pure (changed > 0)

/-- Adds a ticket or puts it in the place of the one with its id. -/
def put (ticket : Ticket) : Act Database Unit :=
  Database.Pool.update (Database.TicketTable.put (.ok (Database.TicketRow.ofTicket ticket)))

/-- The store in a database, at some time. -/
def inDatabase (closed : List String) (now : Stamp) : Store Database where
  listOpen limit := listOpen closed limit
  find id := find id
  change id updates expected := do
    let values <- Act.ofResult updates.read
    change now.instant id values expected
  put ticket := put ticket

end Tickets
end Triage
