import Triage.Condition.Draft
import Triage.Rule.Definition
import Triage.Vocabulary

namespace Triage

/-!
Reviews: whether a rule makes sense in a vocabulary.

A review lists errors, which keep a rule out, and warnings, which do not.  It looks at drafts
of conditions, so it can also be asked about a rule that was never checked.
-/

/-- The result of a review. -/
structure Review where
  errors : List String
  warnings : List String
deriving DecidableEq, Repr, Inhabited

namespace Review

/-- A review without errors. -/
def isValid (review : Review) : Bool := review.errors.isEmpty

def isWord (words : List String) (value : Value) : Bool :=
  words.any fun word => value.asText? == some word

/-- Actions that set an aspect to an unknown word. -/
def targetErrors (vocabulary : Vocabulary) (actions : List Action) : List String :=
  actions.filterMap fun action =>
    match action.aspect? with
    | some aspect =>
        if (vocabulary.words aspect).contains action.target then none
        else some ("Action '" ++ action.kind.name ++ "' targets unknown " ++ aspect.name ++ " '" ++
          action.target ++ "'")
    | none => none

/-- Conditions that compare with an unknown priority. -/
def priorityErrors (vocabulary : Vocabulary) (conditions : List Condition.Draft) : List String :=
  conditions.filterMap fun condition =>
    if condition.looksAt .priority && !isWord vocabulary.priorities condition.operand then
      some ("Condition compares against unknown priority '" ++ condition.operand.display ++ "'")
    else none

/-- Conditions that compare with a status nobody listed. -/
def statusWarnings (vocabulary : Vocabulary) (conditions : List Condition.Draft) : List String :=
  conditions.filterMap fun condition =>
    if condition.looksAt .status && !isWord vocabulary.statuses condition.operand then
      some ("Condition compares against status '" ++ condition.operand.display ++
        "' outside the status list")
    else none

/-- Aspects that an earlier action sets already; `seen` are the aspects before the actions. -/
def repeatWarnings : List Aspect -> List Action -> List String
  | _, [] => []
  | seen, action :: actions =>
      match action.aspect? with
      | none => repeatWarnings seen actions
      | some aspect =>
          (if seen.contains aspect then
            ["Rule sets '" ++ aspect.name ++ "' more than once; only the first action applies"]
          else []) ++ repeatWarnings (aspect :: seen) actions

/-- Reviews the parts of a rule. -/
def ofParts (vocabulary : Option Vocabulary) (description : String)
    (conditions : List Condition.Draft) (actions : List Action) : Review where
  errors :=
    (if conditions.isEmpty then ["Rule has no conditions defined"] else []) ++
    (if actions.isEmpty then ["Rule has no actions defined"] else []) ++
    (vocabulary.map fun words => targetErrors words actions ++ priorityErrors words conditions).getD []
  warnings :=
    (vocabulary.map fun words => statusWarnings words conditions).getD [] ++
    repeatWarnings [] actions ++
    (if actions.any Action.isMutation then []
    else ["Rule only sends notifications - it fires on every cycle while its conditions hold"]) ++
    (if description.isEmpty then ["Rule has no description"] else [])

def of (vocabulary : Option Vocabulary) (rule : Rule) : Review :=
  ofParts vocabulary rule.description (rule.conditions.map Condition.toDraft) rule.actions

/-- A review with errors as a failure about the rule of an id. -/
def demand (id : String) (review : Review) : Except Failure Review :=
  if review.isValid then .ok review
  else .error (.raised .ruleDefinition ("Invalid rule: " ++ Value.textsLiteral review.errors)
    (some Rule.Definition.component)
    [("rule_id", .text id), ("errors", .texts review.errors)])

/-- Refuses a rule with errors. -/
def ensure (vocabulary : Option Vocabulary) (rule : Rule) : Except Failure Review :=
  (of vocabulary rule).demand rule.id

/-- A review as a record. -/
def toValue (review : Review) : Value :=
  .record [("valid", .bool review.isValid), ("errors", .texts review.errors),
    ("warnings", .texts review.warnings)]

end Review
end Triage
