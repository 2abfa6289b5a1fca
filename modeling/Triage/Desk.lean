import Triage.Executor
import Triage.Matching
import Triage.Rules.Catalog
import Triage.Tickets.Store
import Triage.Trail

namespace Triage

/-!
The desk: everything an engine works with.

An engine sees its stores, its clocks and the steps of its work only through the operations
listed here, each of which may fail on its own.  What holds of a cycle for every desk therefore
holds however its stores behave.
-/

/-- The rules, as an engine sees them. -/
structure Rules.Book (S : Type) where
  active : Act S (List Rule)
  all : Act S (List Rule)
  require : String -> Act S Rule
  create : Rules.Catalog.Draft -> Act S Rule
  markExecuted : List String -> Instant -> Act S Nat
  importFrom : Bool -> String -> Option Rule.Directory -> Act S (List Rule)

/-- The audit trail, as an engine sees it. -/
structure Trail.Log (S : Type) where
  record : Execution -> Act S Unit
  countByOutcome : Act S Tally

/-- A desk on a state. -/
structure Desk (S : Type) where
  clock : S -> Stamp
  /-- A clock that measures lengths of time, in seconds. -/
  stopwatch : S -> Quantity
  /-- Draws the id of a new cycle. -/
  cycleId : S -> String × S
  /-- Draws the id of a new entry of the audit trail. -/
  recordId : S -> String × S
  tickets : Tickets.Store S
  rules : Rules.Book S
  trail : Trail.Log S
  /-- Sorts out which rules apply to a ticket. -/
  sortOut : List Rule -> Ticket -> Instant -> Act S Matching
  /-- Whether a rule fires on a ticket. -/
  fires : Rule -> Ticket -> Instant -> Act S Bool
  /-- Decides what to do about a ticket. -/
  resolve : Ticket -> Matching -> Act S Plan
  /-- Carries out a plan. -/
  carryOut : String -> Plan -> Instant -> Option String -> Act S (List Execution)

end Triage
