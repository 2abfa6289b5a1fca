import Triage.Act
import Triage.Ticket
import Triage.Value.Display

namespace Triage

/-!
Stores of tickets, as the engine sees them.

The engine lists the tickets that are not closed, reads one ticket again and changes aspects of
one ticket, on condition that nobody changed it meanwhile.  Nothing else about a store matters
to it, so a store is these operations on some state.
-/

namespace Tickets

/-- What to write to a ticket, by the names of its attributes. -/
abbrev Updates := List (String × Option String)

/-- The updates of aspects, by name. -/
def Updates.ofAspects (values : List (Aspect × String)) : Updates :=
  values.map fun value => (value.1.name, some value.2)

/-- The names among updates that are no aspects. -/
def Updates.unknown (updates : Updates) : List String :=
  (updates.map Prod.fst).filter fun name => (Aspect.ofName? name).isNone

/-- The aspects that updates change; names of anything else are refused. -/
def Updates.read (updates : Updates) : Except Failure (List (Aspect × Option String)) :=
  if updates.unknown.isEmpty then
    .ok (updates.filterMap fun update =>
      (Aspect.ofName? update.1).map fun aspect => (aspect, update.2))
  else
    .error (.badValue ("Cannot mutate ticket attributes: " ++
      Value.textsLiteral (updates.unknown.mergeSort fun a b => !(b < a))))

/-- The first items; a negative limit leaves out as many of the last ones. -/
def firstOf {A : Type} (limit : Int) (items : List A) : List A :=
  items.take (if limit < 0 then (items.length + limit).toNat else limit.toNat)

/-- A store of tickets on a state. -/
structure Store (S : Type) where
  /-- The tickets that are not closed, oldest first, up to a limit. -/
  listOpen : Option Int -> Act S (List Ticket)
  /-- The ticket of an id. -/
  find : String -> Act S (Option Ticket)
  /--
  Writes updates to the ticket of an id and says whether it did.  With an expected time of its
  last change, nothing is written when that time is another.
  -/
  change : String -> Updates -> Option Instant -> Act S Bool
  /-- Adds a ticket or puts it in the place of the one with its id. -/
  put : Ticket -> Act S Unit

/-- A store on a part of a state, which goes by the clock of the whole. -/
def Store.on {S T : Type} (part : Part S T) (clock : S -> Stamp) (store : Stamp -> Store T) :
    Store S :=
  let perform {A : Type} (act : Store T -> Act T A) : Act S A := do
    let now <- Act.look clock
    part.perform (act (store now))
  { listOpen := fun limit => perform fun store => store.listOpen limit
    find := fun id => perform fun store => store.find id
    change := fun id updates expected => perform fun store => store.change id updates expected
    put := fun ticket => perform fun store => store.put ticket }

/-- A store as part of a larger state. -/
def Store.within {S T : Type} (store : Store T) (part : Part S T) : Store S where
  listOpen limit := part.perform (store.listOpen limit)
  find id := part.perform (store.find id)
  change id updates expected := part.perform (store.change id updates expected)
  put ticket := part.perform (store.put ticket)

end Tickets
end Triage
