import Triage.Field.Moment

namespace Triage

/-!
Tickets.

A ticket is a snapshot.  Five of its attributes are texts that may be missing, and a missing
one reads as the word that stands for its absence, so every attribute always has a reading.
Rules may change three of the five.
-/

/-- The attributes that conditions can compare as texts. -/
inductive Attribute where
  | status
  | priority
  | assignee
  | company
  | category
deriving DecidableEq, Repr, Inhabited

/-- The attributes that rules may change. -/
inductive Aspect where
  | status
  | priority
  | assignee
deriving DecidableEq, Repr, Inhabited

namespace Attribute

/-- All attributes. -/
def all : List Attribute := [status, priority, assignee, company, category]

/-- The written name of an attribute. -/
def name : Attribute -> String
  | status => "status"
  | priority => "priority"
  | assignee => "assignee"
  | company => "company"
  | category => "type"

/-- The attribute of a written name. -/
def ofName? (s : String) : Option Attribute := all.find? fun candidate => candidate.name == s

/-- What a missing attribute reads as. -/
def absent : Attribute -> String
  | status => "Unknown"
  | priority => "Unknown"
  | assignee => "Unassigned"
  | company => "Unknown Company"
  | category => "Unknown Type"

end Attribute

namespace Aspect

def all : List Aspect := [status, priority, assignee]

def toAttribute : Aspect -> Attribute
  | status => .status
  | priority => .priority
  | assignee => .assignee

/-- The written name of an aspect. -/
def name (aspect : Aspect) : String := aspect.toAttribute.name

/-- The aspect of a written name. -/
def ofName? (s : String) : Option Aspect := all.find? fun candidate => candidate.name == s

end Aspect

/-- A snapshot of a ticket. -/
structure Ticket where
  id : String
  subject : String
  status : Option String
  priority : Option String
  assignee : Option String
  company : Option String
  category : Option String
  createdAt : Instant
  /-- When it was last changed, as the clock of whoever changed it showed it. -/
  updatedAt : Stamp
deriving DecidableEq, Repr, Inhabited

namespace Ticket

/-- The name of the record in complaints. -/
def modelName : String := "Ticket"

/-- The stored text of an attribute. -/
def stored (ticket : Ticket) : Attribute -> Option String
  | .status => ticket.status
  | .priority => ticket.priority
  | .assignee => ticket.assignee
  | .company => ticket.company
  | .category => ticket.category

def reading (ticket : Ticket) (a : Attribute) : String :=
  (ticket.stored a).getD a.absent

/-- Replaces one aspect. -/
def set (ticket : Ticket) (aspect : Aspect) (value : Option String) : Ticket :=
  match aspect with
  | .status => { ticket with status := value }
  | .priority => { ticket with priority := value }
  | .assignee => { ticket with assignee := value }

/-- Replaces aspects one after another. -/
def setAll (ticket : Ticket) (updates : List (Aspect × Option String)) : Ticket :=
  updates.foldl (fun current update => current.set update.1 update.2) ticket

@[simp]
theorem stored_set (ticket : Ticket) (aspect : Aspect) (value : Option String)
    (a : Attribute) :
    (ticket.set aspect value).stored a =
      if aspect.toAttribute = a then value else ticket.stored a := by
  cases aspect <;> cases a <;> rfl

/-- An id: any value whose text is not blank. -/
def checkId (value : Value) : Field.Checked String :=
  match value with
  | .null => .fault (.rejected "Ticket id must be non-empty") value
  | _ =>
      if Text.allBlank value.display then
        .fault (.rejected "Ticket id must be non-empty") value
      else .good value.display

/-- An attribute: the trimmed text of any value, and nothing when that is empty. -/
def checkAttribute (value : Value) : Field.Checked (Option String) :=
  match value with
  | .null => .good none
  | _ =>
      let trimmed := Text.trim value.display
      .good (if trimmed.isEmpty then none else some trimmed)

/-- Checks a ticket given as a record. -/
def check (record : Value) : Field.Checked Ticket :=
  let optionalText (name : String) := Field.optional record name none checkAttribute
  Ticket.mk
    <$> Field.required record "id" checkId
    <*> Field.optional record "subject" "" Field.text
    <*> optionalText "status"
    <*> optionalText "priority"
    <*> optionalText "assignee"
    <*> optionalText "company"
    <*> optionalText "type"
    <*> Field.required record "created_at" Field.moment
    <*> Stamp.ofInstant <$> Field.required record "updated_at" Field.moment

/-- Builds a ticket from a record. -/
def make (record : Value) : Except Failure Ticket := (check record).outcome modelName

/-- A ticket as a record. -/
def toValue (ticket : Ticket) : Value :=
  .record [
    ("id", .text ticket.id),
    ("subject", .text ticket.subject),
    ("status", Value.textOrNull ticket.status),
    ("priority", Value.textOrNull ticket.priority),
    ("assignee", Value.textOrNull ticket.assignee),
    ("company", Value.textOrNull ticket.company),
    ("type", Value.textOrNull ticket.category),
    ("created_at", .text ticket.createdAt.text),
    ("updated_at", .text ticket.updatedAt.text)]

/-- The reading of an attribute by name; other names are no attributes. -/
def readingOf (ticket : Ticket) (name : String) : Except Failure String :=
  match Attribute.ofName? name with
  | some a => .ok (ticket.reading a)
  | none => .error (.missingKey name)

end Ticket
end Triage
