import Triage.Database
import Triage.Database.RuleTable
import Triage.Rule.File
import Triage.Rule.Review
import Triage.Time.Written
import Triage.Value.Conversion

namespace Triage
namespace Rules

/-!
The catalog of rules.

The catalog is a table from ids to rules.  Every edit that changes a definition makes a new
version; switching a rule on or off and running it do not.
-/

/-! ## Rules from rows

Somebody else may have written a row, so it becomes a rule by the checks that any rule has to
pass.  The columns are read in their order, and the first one that cannot be read decides.
-/

/-- The stamp that a cell holds. -/
def readStamp (cell : Database.Cell) : Except Failure Value :=
  match cell with
  | .text s => (Stamp.ofText s).map .stamp
  | _ => .error (.wrongType "fromisoformat: argument must be str")

/-- The stamp of a cell that may hold nothing. -/
def readStampOrNothing (cell : Database.Cell) : Except Failure Value :=
  if cell.toValue.isTruthy then readStamp cell else .ok .null

def ofRow (row : Database.RuleRow) : Except Failure Rule := do
  let description := row.description.toValue
  let conditions <- row.conditions.readAll "automation.models.rule.RuleCondition" Condition.make
  let actions <- row.actions.readAll "automation.models.rule.RuleAction" Action.make
  let version <- row.version.toValue.toWhole
  let createdAt <- readStamp row.createdAt
  let updatedAt <- readStamp row.updatedAt
  let lastExecutedAt <- readStampOrNothing row.lastExecutedAt
  let record := Value.record [
    ("id", row.id.toValue),
    ("name", row.name.toValue),
    ("description", if description.isTruthy then description else .text ""),
    ("is_active", .bool row.isActive.toValue.isTruthy),
    ("version", .int version),
    ("created_at", createdAt),
    ("updated_at", updatedAt),
    ("last_executed_at", lastExecutedAt)]
  let checked := Rule.checkWith
    ((Rule.checkSome "condition" (.list []) conditions).under "trigger_conditions")
    ((Rule.checkSome "action" (.list []) actions).under "actions") record
  checked.outcome Rule.modelName

/-! ## The catalog -/

/-- The component that keeps rules. -/
def component : String := "RuleRepository"

namespace Catalog

/-- Rules that cannot be read. -/
def loadingFailure (failure : Failure) : Failure :=
  if failure.isDatabase || failure.isBadValue then
    .of .unavailable component ("Failed to load rules: " ++ failure.report)
  else failure

/-- Reads the rules that a query selects. -/
def load (query : Database.Statement Database.Tables (List Database.RuleRow)) :
    Act Database (List Rule) :=
  Act.mapFailure loadingFailure do
    let rows <- Database.Pool.query query
    Act.ofResult (rows.mapM ofRow)

/-- All rules in their order. -/
def all : Act Database (List Rule) := load Database.RuleTable.selectAll

/-- The active rules in their order. -/
def active : Act Database (List Rule) := load Database.RuleTable.selectActive

def find (id : String) : Act Database (Option Rule) := do
  pure (<- load (Database.RuleTable.selectById id)).head?

def missing (id : String) : Failure := .of .ruleMissing component ("Rule not found: " ++ id)

def require (id : String) : Act Database Rule := do
  match <- find id with
  | some rule => pure rule
  | none => Act.ofResult (.error (missing id))

/-- A rule whose id is taken. -/
def taken (id : String) : Failure :=
  .raised .ruleDefinition ("Rule already exists: " ++ id) (some component) [("rule_id", .text id)]

/-- Adds a rule with a new id. -/
def add (vocabulary : Option Vocabulary) (rule : Rule) : Act Database Rule := do
  let _ <- Act.ofResult (Review.ensure vocabulary rule)
  if (<- find rule.id).isSome then Act.ofResult (.error (taken rule.id))
  else
    Database.Pool.update (Database.RuleTable.insert rule)
    pure rule

/-- What a new rule is made of, as somebody wrote it. -/
structure Draft where
  id : Value
  name : Value
  description : Value
  conditions : Value
  actions : Value
  isActive : Value
  createdAt : Option Stamp
deriving Inhabited

/-- A draft from a record with its parts. -/
def Draft.ofRecord (record : Value) (createdAt : Option Stamp) : Draft where
  id := (record.get? "rule_id").getD .null
  name := (record.get? "name").getD .null
  description := (record.get? "description").getD (.text "")
  conditions := (record.get? "trigger_conditions").getD .null
  actions := (record.get? "actions").getD .null
  isActive := (record.get? "is_active").getD (.bool true)
  createdAt := createdAt

/-- The items of a list of mappings. -/
def mappings (value : Value) : Except Failure Value := do
  let items <- value.toItems
  pure (.list (<- items.mapM Value.toMapping))

/-- The rule that a draft defines, given an id for where it has none. -/
def Draft.read (draft : Draft) (now : Instant) (freshId : String) : Except Failure Rule := do
  let createdAt := Value.stamp (draft.createdAt.getD (Stamp.ofInstant now))
  let conditions <- mappings draft.conditions
  let actions <- mappings draft.actions
  Rule.Definition.read now (.record [
    ("id", if draft.id.isTruthy then draft.id else .text freshId),
    ("name", draft.name),
    ("description", draft.description),
    ("trigger_conditions", conditions),
    ("actions", actions),
    ("is_active", draft.isActive),
    ("created_at", createdAt),
    ("updated_at", createdAt)])

/-- Creates a rule. -/
def create (vocabulary : Option Vocabulary) (now : Instant) (freshId : String) (draft : Draft) :
    Act Database Rule := do
  add vocabulary (<- Act.ofResult (draft.read now freshId))

/-- What an edit replaces; a missing part stays as it is. -/
structure Edit where
  name : Option Value
  description : Option Value
  conditions : Option Value
  actions : Option Value
deriving Inhabited

/-- An edit from a record with the parts it replaces. -/
def Edit.ofRecord (record : Value) : Edit :=
  let given (name : String) : Option Value :=
    match record.get? name with
    | some .null => none
    | other => other
  ⟨given "name", given "description", given "trigger_conditions", given "actions"⟩

/-- A moment that may be missing. -/
def stampValue (moment : Option Instant) : Value :=
  match moment with
  | some instant => .stamp (.ofInstant instant)
  | none => .null

/-- The rule that an edit makes of another, without its history. -/
def Edit.read (edit : Edit) (now : Instant) (rule : Rule) : Except Failure Rule := do
  let conditions <- mappings (edit.conditions.getD (.list (rule.conditions.map Condition.toValue)))
  let actions <- mappings (edit.actions.getD (.list (rule.actions.map Action.toValue)))
  Rule.Definition.read now (.record [
    ("id", .text rule.id),
    ("name", edit.name.getD (.text rule.name)),
    ("description", edit.description.getD (.text rule.description)),
    ("trigger_conditions", conditions),
    ("actions", actions),
    ("is_active", .bool rule.isActive),
    ("created_at", .stamp (.ofInstant rule.createdAt)),
    ("last_executed_at", stampValue rule.lastExecutedAt)])

/-- Whether an edit leaves the definition as it was.  Conditions that it does not give are those
of the rule, whatever they compare with; the not-a-number that is given equals none before. -/
def Edit.changesNothing (edit : Edit) (edited rule : Rule) : Bool :=
  edited.name == rule.name && edited.description == rule.description &&
    (edit.conditions.isNone || Rule.sameAll Condition.same edited.conditions rule.conditions) &&
    edited.actions == rule.actions

/-- The next version of a rule, if an edit changes its definition at all. -/
def Edit.next (edit : Edit) (vocabulary : Option Vocabulary) (now : Instant) (rule : Rule) :
    Except Failure (Option Rule) := do
  let edited <- edit.read now rule
  if edit.changesNothing edited rule then pure none
  else
    let next := { edited with version := rule.version + 1, updatedAt := some now }
    let _ <- Review.ensure vocabulary next
    pure (some next)

def update (vocabulary : Option Vocabulary) (now : Instant) (id : String) (edit : Edit) :
    Act Database Rule := do
  let rule <- require id
  match <- Act.ofResult (edit.next vocabulary now rule) with
  | none => pure rule
  | some next =>
      Database.Pool.update (Database.RuleTable.changeDefinition next)
      pure next

/-- Switches a rule on or off. -/
def setActive (id : String) (isActive : Bool) : Act Database Rule := do
  let rule <- require id
  if rule.isActive == isActive then pure rule
  else
    let _ <- Database.Pool.update (Database.RuleTable.setActive id isActive)
    pure { rule with isActive }

/-- Takes a rule away and says whether there was one. -/
def delete (id : String) : Act Database Bool := do
  let deleted <- Database.Pool.update (Database.RuleTable.delete id)
  pure (deleted > 0)

/-- Notes when rules were executed, and says how many of them there are. -/
def markExecuted (ids : List String) (executedAt : Instant) : Act Database Nat :=
  let distinct := ids.eraseDups
  if distinct.isEmpty then pure 0
  else Database.Pool.update (Database.RuleTable.markExecuted distinct executedAt)

/-- The edit that makes a rule the same as another. -/
def Edit.toward (rule : Rule) : Edit where
  name := some (.text rule.name)
  description := some (.text rule.description)
  conditions := some (.list (rule.conditions.map Condition.toValue))
  actions := some (.list (rule.actions.map Action.toValue))

/-- Adds a rule, or edits the one with its id where that is wanted. -/
def take (vocabulary : Option Vocabulary) (now : Instant) (replace : Bool) (rule : Rule) :
    Act Database (Option Rule) := do
  if (<- find rule.id).isNone then some <$> add vocabulary rule
  else if replace then some <$> update vocabulary now rule.id (.toward rule)
  else pure none

/-- Takes rules in turn and leaves out those whose definition is refused. -/
def takeAll (vocabulary : Option Vocabulary) (now : Instant) (replace : Bool) :
    List Rule -> Act Database (List Rule)
  | [] => pure []
  | rule :: rules => do
      let taken <- match <- (take vocabulary now replace rule).attempt with
        | .ok taken => pure taken
        | .error failure =>
            if failure.isOf .ruleDefinition then pure none else Act.ofResult (.error failure)
      let later <- takeAll vocabulary now replace rules
      pure (taken.toList ++ later)

/-- Imports the rules of a directory and says which were added or edited. -/
def importFrom (vocabulary : Option Vocabulary) (now : Instant) (replace : Bool) (path : String)
    (files : Option Rule.Directory) : Act Database (List Rule) := do
  takeAll vocabulary now replace (<- Act.ofResult (Rule.Directory.read now path files))

end Catalog
end Rules
end Triage
