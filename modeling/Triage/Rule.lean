import Triage.Condition
import Triage.Action

namespace Triage

/-!
Rules.

A rule holds when it is active and all its conditions do, and then takes its actions in
order.  Rules are ordered by the time they were created and then by id; that order decides
between rules that want to set the same thing.
-/

/-- An automation rule. -/
structure Rule where
  id : String
  name : String
  description : String
  conditions : List Condition
  actions : List Action
  isActive : Bool
  version : Int
  createdAt : Instant
  updatedAt : Option Instant
  lastExecutedAt : Option Instant
deriving Repr, Inhabited

namespace Rule

/-- The name of the record in complaints. -/
def modelName : String := "Rule"

/-- The characters of ids: lower-case letters, digits, hyphens and underscores. -/
def isIdChar (c : Char) : Bool :=
  ('a' ≤ c && c ≤ 'z') || ('0' ≤ c && c ≤ '9') || c == '_' || c == '-'

/-- An id has at least one of its characters and may end with one line break. -/
def isId (s : String) : Bool :=
  let cs := s.toList
  let body := if cs.getLast? == some '\n' then cs.dropLast else cs
  !body.isEmpty && body.all isIdChar

def checkId (value : Value) : Field.Checked String :=
  (Field.text value).andThen fun s =>
    if isId s then .good s
    else .fault (.rejected
      "Rule ID must contain only lowercase letters, numbers, hyphens, and underscores") value

/-- Checks a name and trims it. -/
def checkName (value : Value) : Field.Checked String :=
  (Field.text value).andThen fun s =>
    if Text.allBlank s then .fault (.rejected "Rule name must be non-empty") value
    else .good (Text.trim s)

def checkVersion (value : Value) : Field.Checked Int :=
  (Field.whole value).andThen fun version =>
    if version < 1 then .fault (.rejected "Version must be at least 1") value else .good version

/-- Refuses an empty list. -/
def checkSome {A : Type} (what : String) (value : Value) (items : List A) :
    Field.Checked (List A) :=
  if items.isEmpty then
    .fault (.rejected ("At least one " ++ what ++ " must be defined")) value
  else .good items

/-- A check of a record inside a list. -/
def checkRecord {A : Type} (model : String) (check : Value -> Field.Checked A) (value : Value) :
    Field.Checked A :=
  match value with
  | .mapping _ => check value
  | _ => .fault (.record model) value

def checkConditions (value : Value) : Field.Checked (List Condition) :=
  (Field.listOf (checkRecord Condition.modelName Condition.check) value).andThen
    (checkSome "condition" value)

def checkActions (value : Value) : Field.Checked (List Action) :=
  (Field.listOf (checkRecord Action.modelName Action.check) value).andThen
    (checkSome "action" value)

/-- Checks a rule given as a record whose lists are checked in some way of their own. -/
def checkWith (conditions : Field.Checked (List Condition))
    (actions : Field.Checked (List Action)) (record : Value) : Field.Checked Rule :=
  Rule.mk
    <$> Field.required record "id" checkId
    <*> Field.required record "name" checkName
    <*> Field.optional record "description" "" Field.text
    <*> conditions
    <*> actions
    <*> Field.optional record "is_active" true Field.flag
    <*> Field.optional record "version" 1 checkVersion
    <*> Field.required record "created_at" Field.moment
    <*> Field.optional record "updated_at" none (Field.nullable Field.moment)
    <*> Field.optional record "last_executed_at" none (Field.nullable Field.moment)

/-- Checks a rule given as a record. -/
def check (record : Value) : Field.Checked Rule :=
  checkWith (Field.required record "trigger_conditions" checkConditions)
    (Field.required record "actions" checkActions) record

/-- Builds a rule from a record. -/
def make (record : Value) : Except Failure Rule := (check record).outcome modelName

/-- The definition of a rule as a record, with or without what running it leaves behind. -/
def definitionEntries (rule : Rule) : List (String × Value) := [
  ("id", .text rule.id),
  ("name", .text rule.name),
  ("description", .text rule.description),
  ("trigger_conditions", .list (rule.conditions.map Condition.toValue)),
  ("actions", .list (rule.actions.map Action.toValue)),
  ("is_active", .bool rule.isActive)]

/-- A moment that may be missing, as a value. -/
def momentValue (moment : Option Instant) : Value := Value.textOrNull (moment.map Instant.text)

/-- A rule as a record. -/
def toValue (rule : Rule) : Value :=
  .record (rule.definitionEntries ++ [
    ("version", .int rule.version),
    ("created_at", .text rule.createdAt.text),
    ("updated_at", momentValue rule.updatedAt),
    ("last_executed_at", momentValue rule.lastExecutedAt)])

/-- The actions that change a ticket. -/
def mutations (rule : Rule) : List Action := rule.actions.filter Action.isMutation

def notifications (rule : Rule) : List Action := rule.actions.filter fun a => !a.isMutation

/-- Whether two lists agree item by item. -/
def sameAll {A : Type} (same : A -> A -> Bool) : List A -> List A -> Bool
  | [], [] => true
  | a :: as, b :: bs => same a b && sameAll same as bs
  | _, _ => false

/-- Whether two rules have the same editable definition. -/
def sameDefinition (a b : Rule) : Bool :=
  a.name == b.name && a.description == b.description &&
    sameAll Condition.same a.conditions b.conditions && a.actions == b.actions

/-- The order of creation, the id deciding between rules of one instant. -/
def order (a b : Rule) : Ordering :=
  (compare a.createdAt b.createdAt).then (compare a.id b.id)

/-- Rules in their order; rules that are equal in it keep their places. -/
def ordered (rules : List Rule) : List Rule :=
  rules.mergeSort fun a b => (a.order b).isLE

end Rule
end Triage
