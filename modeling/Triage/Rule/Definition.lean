import Triage.Rule

namespace Triage
namespace Rule

/-!
Rules from definitions.

A definition is a mapping that somebody wrote.  It is read part by part, and the first part
that is missing or wrong decides the complaint.
-/

namespace Definition

/-- The component that reads definitions. -/
def component : String := "RuleParser"

/-- A complaint about a definition. -/
def complaint (message : String) : Failure := .of .ruleDefinition component message

/-- A complaint that also shows what it is about. -/
def complaintAbout (name : String) (found : Value) (message : String) : Failure :=
  .raised .ruleDefinition message (some component) [(name, found)]

/-- The entry of a mapping, null when there is none. -/
def entry (definition : Value) (name : String) : Value := (definition.get? name).getD .null

def isMapping : Value -> Bool
  | .mapping _ => true
  | _ => false

/-- Texts in alphabetical order. -/
def sorted (names : List String) : List String := names.mergeSort fun a b => !(b < a)

/-- Checks that an entry is one of some names. -/
def checkName (what : String) (names : List String) (found : Value) : Except Failure Unit :=
  if !found.isKey then .error (.unusableKey found)
  else if names.any fun name => found.asText? == some name then .ok ()
  else .error (complaint ("Invalid " ++ what ++ ": " ++ found.display ++ ". Must be one of: " ++
    Value.textsLiteral (sorted names)))

/-- Passes on what a check found good, and words its faults as a complaint. -/
def worded {A : Type} (model what name : String) (shown : Value) (checked : Field.Checked A) :
    Except Failure A :=
  match checked.outcome model with
  | .error (.fields _ faults) =>
      .error (complaintAbout name shown
        ("Invalid " ++ what ++ ": " ++ Field.messages faults))
  | other => other

/-- Reads a condition. -/
def condition (definition : Value) : Except Failure Condition := do
  if !isMapping definition then throw (complaint "Condition must be a mapping")
  let criterion := entry definition "field"
  if !criterion.isTruthy then throw (complaint "Condition 'field' is required")
  checkName "field" (Criterion.all.map Criterion.name) criterion
  let comparison := entry definition "operator"
  if !comparison.isTruthy then throw (complaint "Condition 'operator' is required")
  checkName "operator" (Comparison.all.map Comparison.name) comparison
  if (definition.get? "value").isNone then throw (complaint "Condition 'value' is required")
  worded Condition.modelName "condition" "condition" definition (Condition.check definition)

/-- Reads an action. -/
def action (definition : Value) : Except Failure Action := do
  if !isMapping definition then throw (complaint "Action must be a mapping")
  let kind := entry definition "type"
  if !kind.isTruthy then throw (complaint "Action 'type' is required")
  checkName "action type" (Action.Kind.all.map Action.Kind.name) kind
  worded Action.modelName "action" "action" definition
    (Action.check (.record [("type", kind), ("target_value", entry definition "target_value")]))

/-- Reads the items of a list that a definition has to hold. -/
def itemsOf {A : Type} (what : String) (read : Value -> Except Failure A) (found : Value) :
    Except Failure (List A) :=
  match found with
  | .list items => items.mapM read
  | _ => .error (complaint (what ++ " must be a list"))

/-- An entry that holds something. -/
def someEntry (what verb : String) (context : List (String × Value)) (found : Value) :
    Except Failure Value :=
  if found.isTruthy then .ok found
  else .error (.raised .ruleDefinition ("Rule '" ++ what ++ "' " ++ verb ++ " required")
    (some component) context)

/-- A value, or another one where it counts as nothing. -/
def orElse (value other : Value) : Value := if value.isTruthy then value else other

/-- Reads a rule; where the definition has no instants, it counts as written now. -/
def read (now : Instant) (definition : Value) : Except Failure Rule := do
  if !isMapping definition then throw (complaint "Rule definition must be a mapping")
  let id <- someEntry "id" "is" [] (entry definition "id")
  let context := [("rule_id", id)]
  let name <- someEntry "name" "is" context (entry definition "name")
  let conditions <- someEntry "trigger_conditions" "are" context
    ((definition.get? "trigger_conditions").getD (entry definition "conditions"))
  let conditions <- itemsOf "Conditions" condition conditions
  let actions <- someEntry "actions" "are" context (entry definition "actions")
  let actions <- itemsOf "Actions" action actions
  let present : Value := .stamp (.ofInstant now)
  let record := Value.record [
    ("id", .text id.display),
    ("name", name),
    ("description", orElse (entry definition "description") (.text "")),
    ("is_active", (definition.get? "is_active").getD
      ((definition.get? "enabled").getD (.bool true))),
    ("version", (definition.get? "version").getD (.int 1)),
    ("created_at", orElse (entry definition "created_at") present),
    ("updated_at", orElse (entry definition "updated_at") present),
    ("last_executed_at", entry definition "last_executed_at")]
  worded modelName "rule" "rule_id" id
    (checkWith (.good conditions) (.good actions) record)

end Definition
end Rule
end Triage
