import Triage.Tickets.Store

namespace Triage
namespace Tickets

/-!
Tickets kept in memory.
-/

/-- Tickets in the order in which their ids came up, each id once. -/
abbrev Shelf := List Ticket

namespace Shelf

/-- Puts a ticket in the place of the one with its id, or at the end. -/
def put (shelf : Shelf) (ticket : Ticket) : Shelf :=
  if shelf.any fun other => other.id == ticket.id then
    shelf.map fun other => if other.id == ticket.id then ticket else other
  else shelf ++ [ticket]

/-- A shelf with some tickets, of which the last one of an id counts. -/
def ofList (tickets : List Ticket) : Shelf := tickets.foldl put []

def find? (shelf : Shelf) (id : String) : Option Ticket :=
  List.find? (fun ticket => ticket.id == id) shelf

/-- Whether a ticket is worked on. -/
def isOpen (closed : List String) (ticket : Ticket) : Bool :=
  match ticket.status with
  | some status => !closed.contains status
  | none => true

/-- The order of creation, the id deciding between tickets of one instant. -/
def order (a b : Ticket) : Ordering :=
  (compare a.createdAt b.createdAt).then (compare a.id b.id)

/-- The tickets that are not closed, oldest first. -/
def listOpen (closed : List String) (limit : Option Int) (shelf : Shelf) : List Ticket :=
  let tickets := (shelf.filter (isOpen closed)).mergeSort fun a b => (order a b).isLE
  match limit with
  | some limit => firstOf limit tickets
  | none => tickets

/-- Whether a ticket may be changed by somebody who expects it as it was at some time. -/
def isAsExpected (expected : Option Instant) (ticket : Ticket) : Bool :=
  match expected with
  | some instant => ticket.updatedAt.same (.ofInstant instant)
  | none => true

/-- A ticket after updates. -/
def updated (now : Stamp) (values : List (Aspect × Option String)) (ticket : Ticket) : Ticket :=
  { ticket.setAll values with updatedAt := now }

/-- Writes updates to the ticket of an id and says whether it did. -/
def change (now : Stamp) (id : String) (values : List (Aspect × Option String))
    (expected : Option Instant) (shelf : Shelf) : Bool × Shelf :=
  match shelf.find? id with
  | some ticket =>
      if isAsExpected expected ticket then (true, shelf.put (updated now values ticket))
      else (false, shelf)
  | none => (false, shelf)

end Shelf

/-- The store on a shelf, at some time. -/
def inMemory (closed : List String) (now : Stamp) : Store Shelf where
  listOpen limit := Act.look fun shelf => Shelf.listOpen closed limit shelf
  find id := Act.look fun shelf => Shelf.find? shelf id
  change id updates expected := do
    let values <- Act.ofResult updates.read
    Act.draw fun shelf => Shelf.change now id values expected shelf
  put ticket := Act.change fun shelf => Shelf.put shelf ticket

end Tickets
end Triage
