import Triage.Database.Tables

namespace Triage
namespace Database

/-!
Statements on the table of tickets.
-/

namespace TicketTable

/-- Changes the rows of the table. -/
def changeRows {A : Type} (text : String)
    (change : List TicketRow -> Except Fault (A × List TicketRow)) : Statement Tables A :=
  .changing text fun tables => do
    let (answer, rows) <- change (<- tables.ticketRows)
    pure (answer, { tables with tickets := some rows })

/-- Adds a row with an id of its own. -/
def added (row : TicketRow) (rows : List TicketRow) : Except Fault (List TicketRow) := do
  row.check
  if rows.any row.sameId then .error (.repeated "tickets.id") else .ok (rows ++ [row])

/-- Puts a row in the place of the one with its id, or at the end. -/
def replaced (row : TicketRow) (rows : List TicketRow) : List TicketRow :=
  if rows.any row.sameId then rows.map fun other => if row.sameId other then row else other
  else rows ++ [row]

/-- Adds a ticket. -/
def insert (text : String) (row : TicketRow) : Statement Tables Nat :=
  changeRows text fun rows => do pure (1, <- added row rows)

/-- Adds rows one after another, up to the first that is refused. -/
def addedAll : List TicketRow -> List TicketRow -> Except Fault Unit × List TicketRow
  | [], rows => (.ok (), rows)
  | row :: later, rows =>
      match added row rows with
      | .ok rows => addedAll later rows
      | .error fault => (.error fault, rows)

/-- Adds tickets as one batch; those before a refused one stay. -/
def insertAll (text : String) (rows : List TicketRow) : Statement Tables Nat where
  text := text
  batch := some rows.length
  changes _ := !rows.isEmpty
  run tables :=
    match tables.ticketRows with
    | .error fault => (.error fault, tables)
    | .ok before =>
        let (result, after) := addedAll rows before
        (result.map fun _ => rows.length, { tables with tickets := some after })

/-- Adds a ticket or puts it in the place of the one with its id. -/
def put (row : Except Fault TicketRow) : Statement Tables Unit :=
  changeRows ("INSERT INTO tickets (" ++ TicketRow.columns ++ ")") fun rows => do
    let row <- row
    row.check
    pure ((), replaced row rows)

/-- Whether a ticket of this status is worked on. -/
def isOpen (closed : List String) (status : Cell) : Bool :=
  status.isNull || !closed.any fun word => status.isText word

/-- The tickets that are not closed, in the order of their creation as it is written. -/
def selectOpen (closed : List String) (limit : Option Int) : Statement Tables (List TicketRow) :=
  .reading ("SELECT " ++ TicketRow.columns ++ " FROM tickets") fun tables => do
    let rows <- tables.ticketRows
    limited limit ((rows.filter fun row => isOpen closed row.status).mergeSort
      fun a b => (a.order b).isLE)

def selectById (id : String) : Statement Tables (Option TicketRow) :=
  .reading ("SELECT " ++ TicketRow.columns ++ " FROM tickets WHERE id = ?") fun tables => do
    let rows <- tables.ticketRows
    pure (rows.find? fun row => row.id.isText id)

/-- When the ticket of an id was last changed, as it is written. -/
def selectUpdatedAt (id : String) : Statement Tables (Option Cell) :=
  .reading "SELECT updated_at FROM tickets WHERE id = ?" fun tables => do
    let rows <- tables.ticketRows
    pure ((rows.find? fun row => row.id.isText id).map TicketRow.updatedAt)

/-- What an update writes. -/
structure Update where
  id : String
  values : List (Aspect × Option String)
  updatedAt : Instant
  /-- What the time of the last change has to be, as it is written. -/
  guard : Option Cell

def Update.isAbout (update : Update) (row : TicketRow) : Bool :=
  row.id.isText update.id &&
    match update.guard with
    | none => true
    | some (.text s) => row.updatedAt.isText s
    | some _ => false

/-- A row after an update. -/
def Update.apply (update : Update) (row : TicketRow) : TicketRow :=
  let row := update.values.foldl
    (fun row value => row.set value.1 (Cell.ofText? value.2)) row
  { row with updatedAt := .text update.updatedAt.text }

/-- Updates a ticket and says how many rows that changed. -/
def change (update : Update) : Statement Tables Nat :=
  changeRows "UPDATE tickets" fun rows =>
    .ok ((rows.filter update.isAbout).length,
      rows.map fun row => if update.isAbout row then update.apply row else row)

end TicketTable
end Database
end Triage
