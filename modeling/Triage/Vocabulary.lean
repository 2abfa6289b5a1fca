import Triage.Ticket

namespace Triage

/-!
The live vocabulary: the statuses, priorities and agents a helpdesk knows, and the order of
its priorities.
-/

/-- Priorities from the lowest to the highest.  There is at least one. -/
structure PriorityScale where
  names : List String
  nonempty : names ≠ []
deriving DecidableEq

namespace PriorityScale

def lastIndex? (name : String) : List String -> Option Nat
  | [] => none
  | first :: rest =>
      match lastIndex? name rest with
      | some position => some (position + 1)
      | none => if first = name then some 0 else none

/-- The rank of a priority; a name that occurs twice has the rank of its last place. -/
def rank? (scale : PriorityScale) (name : String) : Option Nat := lastIndex? name scale.names

def rank (scale : PriorityScale) (name : String) : Except Failure Nat :=
  match scale.rank? name with
  | some rank => .ok rank
  | none => .error (.missingKey name)

def holds (scale : PriorityScale) (name : String) : Bool := (scale.rank? name).isSome

/-- Names in the order of their ranks, each once. -/
def distinctLast : List String -> List String
  | [] => []
  | first :: rest => if rest.contains first then distinctLast rest else first :: distinctLast rest

/-- The distinct priorities, lowest first. -/
def levels (scale : PriorityScale) : List String := distinctLast scale.names

/-- The scale used when none is given. -/
def standard : PriorityScale := ⟨["Low", "Medium", "High", "Urgent"], by decide⟩

def make (names : List String) : Except Failure PriorityScale :=
  if h : names ≠ [] then .ok ⟨names, h⟩
  else .error (.badValue "Priority scale needs at least one level")

end PriorityScale

/-- The words a helpdesk uses. -/
structure Vocabulary where
  statuses : List String
  priorities : List String
  agents : List String
  closedStatuses : List String
deriving DecidableEq, Repr, Inhabited

namespace Vocabulary

/-- The name of the record in complaints. -/
def modelName : String := "TicketDomain"

/-- The vocabulary used when none is given. -/
def standard : Vocabulary where
  statuses := ["Open (Being Processed)", "On Tech", "On Product",
    "Pending (Awaiting your Reply)", "Waiting on Customer", "Escalated", "Resolved", "Closed"]
  priorities := ["Low", "Medium", "High", "Urgent"]
  agents := ["Unassigned", "Admin User", "Support Team"]
  closedStatuses := ["Resolved", "Closed"]

/-- Checks a vocabulary given as a record. -/
def check (record : Value) : Field.Checked Vocabulary :=
  let words (name : String) := Field.optional record name [] (Field.listOf Field.text)
  Vocabulary.mk <$> words "statuses" <*> words "priorities" <*> words "agents"
    <*> words "closed_statuses"

/-- Builds a vocabulary from a record. -/
def make (record : Value) : Except Failure Vocabulary := (check record).outcome modelName

/-- The words an aspect may be set to. -/
def words (vocabulary : Vocabulary) : Aspect -> List String
  | .status => vocabulary.statuses
  | .priority => vocabulary.priorities
  | .assignee => vocabulary.agents

/-- The words of an aspect by name; other names have none. -/
def wordsOf (vocabulary : Vocabulary) (name : String) : Except Failure (List String) :=
  match Aspect.ofName? name with
  | some aspect => .ok (vocabulary.words aspect)
  | none => .error (.missingKey name)

/-- The order of the priorities. -/
def priorityScale (vocabulary : Vocabulary) : Except Failure PriorityScale :=
  PriorityScale.make vocabulary.priorities

end Vocabulary
end Triage
