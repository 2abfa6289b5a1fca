import Triage.Ticket

namespace Triage

/-!
Actions of rules: three that change a ticket and one that sends a notification.
-/

namespace Action

inductive Kind where
  | reassign
  | updatePriority
  | updateStatus
  | sendNotification
deriving DecidableEq, Repr, Inhabited

namespace Kind

/-- All kinds, in the order complaints list them. -/
def all : List Kind := [reassign, updatePriority, updateStatus, sendNotification]

/-- The written name of a kind. -/
def name : Kind -> String
  | reassign => "reassign"
  | updatePriority => "update_priority"
  | updateStatus => "update_status"
  | sendNotification => "send_notification"

/-- The kind of a written name. -/
def ofName? (s : String) : Option Kind := all.find? fun kind => kind.name == s

/-- The aspect a kind changes; a notification changes none. -/
def aspect? : Kind -> Option Aspect
  | reassign => some .assignee
  | updatePriority => some .priority
  | updateStatus => some .status
  | sendNotification => none

theorem ofName?_name (kind : Kind) : ofName? kind.name = some kind := by
  cases kind <;> decide

end Kind
end Action

/-- An action: what it does, and the new value or the recipient. -/
structure Action where
  kind : Action.Kind
  target : String
deriving DecidableEq, Repr, Inhabited

namespace Action

/-- The name of the record in complaints. -/
def modelName : String := "RuleAction"

/-- The aspect the action changes. -/
def aspect? (action : Action) : Option Aspect := action.kind.aspect?

/-- Whether the action changes a ticket. -/
def isMutation (action : Action) : Bool := action.aspect?.isSome

/-- The name under which actions compete; notifications share one and never do. -/
def attributeName (action : Action) : String :=
  match action.aspect? with
  | some aspect => aspect.name
  | none => "notification"

/-- A target: the trimmed text of any value but nothing and truth values, and not blank. -/
def checkTarget (value : Value) : Field.Checked String :=
  let refused := Field.Checked.fault (.rejected "Action target_value must be non-empty") value
  match value with
  | .null => refused
  | .bool _ => refused
  | _ => if Text.allBlank value.display then refused else .good (Text.trim value.display)

/-- Checks an action given as a record. -/
def check (record : Value) : Field.Checked Action :=
  Action.mk
    <$> Field.required record "type" (Field.choice Kind.all Kind.name)
    <*> Field.required record "target_value" checkTarget

/-- Builds an action from a record. -/
def make (record : Value) : Except Failure Action := (check record).outcome modelName

/-- An action as a record. -/
def toValue (action : Action) : Value :=
  .record [("type", .text action.kind.name), ("target_value", .text action.target)]

end Action
end Triage
