import Triage.Proofs.RuleRuns
import Triage.Proofs.WrittenMoments

namespace Triage

/-!
# Rules that are read back

A sound rule is read back from any mapping that holds its definition, whatever it was written for:
from the file of an exported rule, and from what an edit puts together.  What comes out is the rule
itself, as a first version that was changed now.  Nothing of the definition is lost on the way: each
condition and each action is read back as it is, a name is trimmed already, and an instant has only
one written form.
-/

namespace Rule

/-- A rule as its file brings it into a catalog. -/
def anew (now : Instant) (rule : Rule) : Rule :=
  { rule with version := 1, updatedAt := some now, lastExecutedAt := none }

namespace Definition

/-! ## Conditions and actions -/

theorem checkName_of_mem {what name : String} {names : List String} (known : name ∈ names) :
    checkName what names (.text name) = .ok () := by
  have found : (names.any fun other => (Value.text name).asText? == some other) = true :=
    List.any_eq_true.mpr ⟨name, known, beq_self_eq_true _⟩
  simp only [checkName, Value.isKey, found, Bool.not_true, Bool.false_eq_true, if_false, if_true]

theorem condition_toValue {condition : Condition} (sound : condition.IsSound) :
    Definition.condition condition.toValue = .ok condition := by
  have field : entry condition.toValue "field" = .text condition.criterion.name := by
    simp [entry, Condition.toValue]
  have operator : entry condition.toValue "operator" = .text condition.comparison.name := by
    simp [entry, Condition.toValue]
  have value : (condition.toValue.get? "value").isNone = false := by simp [Condition.toValue]
  have mapping : isMapping condition.toValue = true := rfl
  have named : (Value.text condition.criterion.name).isTruthy = true := by
    cases condition.criterion <;> rfl
  have compared : (Value.text condition.comparison.name).isTruthy = true := by
    cases condition.comparison <;> rfl
  have criterion : checkName "field" (Criterion.all.map Criterion.name)
      (.text condition.criterion.name) = .ok () :=
    checkName_of_mem (List.mem_map_of_mem (Criterion.mem_all _))
  have comparison : checkName "operator" (Comparison.all.map Comparison.name)
      (.text condition.comparison.name) = .ok () := by
    refine checkName_of_mem (List.mem_map_of_mem ?_)
    cases condition.comparison <;> decide
  simp only [Definition.condition, mapping, field, operator, value, named, compared, criterion,
    comparison, Condition.check_toValue sound, Bool.not_true, Bool.false_eq_true, if_false,
    Result.ok_bind]
  exact worded_eq_ok_iff.mpr rfl

theorem action_toValue {action : Action} (clean : action.IsClean) :
    Definition.action action.toValue = .ok action := by
  have type : entry action.toValue "type" = .text action.kind.name := by
    simp [entry, Action.toValue]
  have target : entry action.toValue "target_value" = .text action.target := by
    simp [entry, Action.toValue]
  have mapping : isMapping action.toValue = true := rfl
  have named : (Value.text action.kind.name).isTruthy = true := by
    cases action.kind <;> rfl
  have kind : checkName "action type" (Action.Kind.all.map Action.Kind.name)
      (.text action.kind.name) = .ok () := by
    refine checkName_of_mem (List.mem_map_of_mem ?_)
    cases action.kind <;> decide
  simp only [Definition.action, mapping, type, target, named, kind, Bool.not_true,
    Bool.false_eq_true, if_false, Result.ok_bind]
  exact worded_eq_ok_iff.mpr (Action.check_toValue clean)

theorem itemsOf_map {A : Type} {what : String} {read : Value -> Except Failure A}
    {write : A -> Value} {members : List A}
    (each : forall a, a ∈ members -> read (write a) = .ok a) :
    itemsOf what read (.list (members.map write)) = .ok members := by
  refine Result.mapM_eq_ok ?_
  rw [List.forall₂_map_left_iff, List.forall₂_same]
  exact each

/-! ## Rules -/

/-- A mapping that holds the definition of a rule, with its creation and its last execution. -/
structure Holds (definition : Value) (rule : Rule) : Prop where
  mapping : isMapping definition = true
  id : definition.get? "id" = some (.text rule.id)
  name : definition.get? "name" = some (.text rule.name)
  description : definition.get? "description" = some (.text rule.description)
  conditions : definition.get? "trigger_conditions" =
    some (.list (rule.conditions.map Condition.toValue))
  actions : definition.get? "actions" = some (.list (rule.actions.map Action.toValue))
  isActive : definition.get? "is_active" = some (.bool rule.isActive)
  version : definition.get? "version" = none
  createdAt : Exists fun value => definition.get? "created_at" = some value ∧
    value.isTruthy = true ∧ Field.moment value = .good rule.createdAt
  updatedAt : definition.get? "updated_at" = none
  lastExecutedAt : Field.nullable Field.moment (entry definition "last_executed_at") =
    .good rule.lastExecutedAt

theorem isTruthy_text {s : String} (some_ : s ≠ "") : (Value.text s).isTruthy = true := by
  simp only [Value.isTruthy, Bool.not_eq_true', Bool.eq_false_iff]
  exact fun empty => some_ (String.isEmpty_iff.mp empty)

theorem isTruthy_list {A : Type} {write : A -> Value} {members : List A} (some_ : members ≠ []) :
    (Value.list (members.map write)).isTruthy = true := by
  cases members with
  | nil => exact absurd rfl some_
  | cons first rest => rfl

/-- The record that a definition is checked as holds the fields of the rule that it defines. -/
theorem Holds.check {definition : Value} {rule : Rule} (holds : Holds definition rule)
    (sound : rule.IsSound) (now : Instant) :
    checkWith (.good rule.conditions) (.good rule.actions) (recordOf now definition) =
      .good { rule with version := 1, updatedAt := some now } := by
  rcases holds.createdAt with ⟨value, created, truthy, moment⟩
  rw [checkWith_eq_good_iff]
  refine ⟨?_, ?_, ?_, rfl, rfl, ?_, ?_, ?_, ?_, ?_⟩
  · have found : (recordOf now definition).get? "id" = some (.text rule.id) := by
      simp [recordOf, entry, holds.id, Value.display]
    refine Field.required_of_get? found ?_
    rw [Rule.checkId, Field.text_text, Field.Checked.andThen_good, if_pos sound.id]
  · have found : (recordOf now definition).get? "name" = some (.text rule.name) := by
      simp [recordOf, entry, holds.name]
    exact Field.required_of_get? found (checkName_text sound.name)
  · have found : (recordOf now definition).get? "description" =
        some (.text rule.description) := by
      simp [recordOf, entry, holds.description, orElse_text]
    exact Field.optional_of_get? found (Field.text_text _)
  · have found : (recordOf now definition).get? "is_active" = some (.bool rule.isActive) := by
      simp [recordOf, holds.isActive]
    exact Field.optional_of_get? found rfl
  · have found : (recordOf now definition).get? "version" = some (.int 1) := by
      simp [recordOf, holds.version]
    exact Field.optional_of_get? found rfl
  · have found : (recordOf now definition).get? "created_at" = some value := by
      simp [recordOf, entry, created, orElse, truthy]
    exact Field.required_of_get? found moment
  · have found : (recordOf now definition).get? "updated_at" =
        some (.stamp (.ofInstant now)) := by
      simp [recordOf, entry, holds.updatedAt, orElse, Value.isTruthy]
    exact Field.optional_of_get? found (Field.nullable_moment_ofInstant now)
  · have found : (recordOf now definition).get? "last_executed_at" =
        some (entry definition "last_executed_at") := by
      simp [recordOf]
    exact Field.optional_of_get? found holds.lastExecutedAt

/-- A sound rule is read back from what holds its definition. -/
theorem Holds.read {definition : Value} {rule : Rule} (holds : Holds definition rule)
    (sound : rule.IsSound) (now : Instant) :
    Definition.read now definition = .ok { rule with version := 1, updatedAt := some now } := by
  have entries (name : String) {value : Value} (found : definition.get? name = some value) :
      entry definition name = value := by rw [entry, found]; rfl
  have named : rule.id ≠ "" := by
    intro empty
    have isId := sound.id
    rw [empty] at isId
    cases isId
  have called : rule.name ≠ "" := by
    intro empty
    have notBlank := sound.name.not_blank
    rw [empty] at notBlank
    cases notBlank
  have met : itemsOf "Conditions" condition (.list (rule.conditions.map Condition.toValue)) =
      .ok rule.conditions :=
    itemsOf_map fun condition member => condition_toValue (sound.conditions condition member)
  have taken : itemsOf "Actions" action (.list (rule.actions.map Action.toValue)) =
      .ok rule.actions :=
    itemsOf_map fun action member => action_toValue (sound.actions action member)
  have someConditions : (Value.list (rule.conditions.map Condition.toValue)).isTruthy = true :=
    isTruthy_list sound.someConditions
  have someActions : (Value.list (rule.actions.map Action.toValue)).isTruthy = true :=
    isTruthy_list sound.someActions
  have checked := holds.check sound now
  rw [recordOf, entries "id" holds.id, entries "name" holds.name] at checked
  simp only [Definition.read, holds.mapping, entries "id" holds.id, entries "name" holds.name,
    holds.conditions, Option.getD_some, entries "actions" holds.actions, someEntry,
    isTruthy_text named, isTruthy_text called, someConditions, someActions, met, taken, checked,
    Bool.not_true, Bool.false_eq_true, if_false, if_true, Result.ok_bind]
  exact worded_eq_ok_iff.mpr rfl

section Parts

variable {now : Instant} {definition : Value} {rule : Rule}
  (made : Definition.read now definition = .ok rule)

include made

theorem name_of_read {name : String} (clean : Text.IsClean name)
    (given : definition.get? "name" = some (.text name)) : rule.name = name := by
  have found : (recordOf now definition).get? "name" = some (.text name) := by
    simp [recordOf, entry, given]
  have named := (checkWith_eq_good_iff.mp (parts_of_read made).2.2.2).2.1
  rw [Field.required_of_get? found (checkName_text clean)] at named
  exact (Field.Checked.good.inj named).symm

theorem description_of_read {description : String}
    (given : definition.get? "description" = some (.text description)) :
    rule.description = description := by
  have found : (recordOf now definition).get? "description" = some (.text description) := by
    simp [recordOf, entry, given, orElse_text]
  have described := (checkWith_eq_good_iff.mp (parts_of_read made).2.2.2).2.2.1
  rw [Field.optional_of_get? found (Field.text_text description)] at described
  exact (Field.Checked.good.inj described).symm

theorem conditions_of_read {conditions : List Condition}
    (sound : forall condition, condition ∈ conditions -> condition.IsSound)
    (given : definition.get? "trigger_conditions" =
      some (.list (conditions.map Condition.toValue))) : rule.conditions = conditions := by
  rcases (parts_of_read made).1 with ⟨_, rfl, _, met⟩
  rw [given, Option.getD_some,
    itemsOf_map fun condition member => condition_toValue (sound condition member)] at met
  exact (Except.ok.inj met).symm

theorem actions_of_read {actions : List Action}
    (clean : forall action, action ∈ actions -> action.IsClean)
    (given : definition.get? "actions" = some (.list (actions.map Action.toValue))) :
    rule.actions = actions := by
  have taken := (parts_of_read made).2.2.1
  rw [entry, given, Option.getD_some,
    itemsOf_map fun action member => action_toValue (clean action member)] at taken
  exact (Except.ok.inj taken).symm

end Parts
end Definition

/-! ## Files -/

namespace File

/-- The file of a rule holds its definition, and nothing of what running it leaves behind. -/
theorem holds_definition (rule : Rule) :
    Definition.Holds (definition rule) { rule with lastExecutedAt := none } := by
  have written : (Value.text rule.createdAt.text).isTruthy = true := by
    refine Definition.isTruthy_text fun empty => ?_
    have read := Field.moment_text rule.createdAt
    rw [empty] at read
    cases read
  refine ⟨rfl, ?_, ?_, ?_, ?_, ?_, ?_, ?_, ⟨.text rule.createdAt.text, ?_, written,
    Field.moment_text rule.createdAt⟩, ?_, ?_⟩ <;>
      simp [definition, definitionEntries, Definition.entry, Field.nullable]

/-- A file is read as the definition that its text holds. -/
theorem read_eq {text : String} {definition : Value}
    (known : Yaml.Document.read text = .ok definition) (truthy : definition.isTruthy = true)
    (now : Instant) (path : String) : read now path text = Definition.read now definition := by
  rw [read, known]
  exact if_pos truthy

/-- A rule is read back from the text of its file, as a new one, wherever the text is read as what
was written. -/
theorem read_text {rule : Rule} (sound : rule.IsSound)
    (undone : Yaml.Document.read (text rule) = .ok (definition rule)) (now : Instant)
    (path : String) : read now path (text rule) = .ok (rule.anew now) :=
  (read_eq undone rfl now path).trans ((holds_definition rule).read { sound with } now)

end File

/-- Reading one file after another, of which the first one can be read. -/
theorem Directory.readFiles_cons {now : Instant} {path : String} {file : String × String}
    {files : Directory} {rule : Rule} {rules : List Rule}
    (one : File.read now (path ++ "/" ++ file.1) file.2 = .ok rule)
    (rest : readFiles now path files = .ok rules) :
    readFiles now path (file :: files) = .ok (rule :: rules) := by
  rw [readFiles, one]
  simp only [rest]
  rfl

end Rule

/-! ## Edits -/

namespace Rules
namespace Catalog

theorem mappings_map {A : Type} {write : A -> Value} (members : List A)
    (each : forall a, (write a).toMapping = .ok (write a)) :
    mappings (.list (members.map write)) = .ok (.list (members.map write)) := by
  have kept : (members.map write).mapM Value.toMapping = .ok (members.map write) := by
    refine Result.mapM_eq_ok ?_
    rw [List.forall₂_same]
    intro value member
    rcases List.mem_map.mp member with ⟨a, _, rfl⟩
    exact each a
  rw [mappings, Value.toItems, Result.ok_bind, kept]
  rfl

/-- The edit that makes a rule the same as another one keeps its id, its state and its history, and
takes everything else from the other one. -/
theorem Edit.read_toward {rule known : Rule} (sound : rule.IsSound) (isSound : known.IsSound)
    (now : Instant) : (Edit.toward rule).read now known = .ok { rule with
      id := known.id
      isActive := known.isActive
      version := 1
      createdAt := known.createdAt
      updatedAt := some now
      lastExecutedAt := known.lastExecutedAt } := by
  have conditions : mappings (.list (rule.conditions.map Condition.toValue)) =
      .ok (.list (rule.conditions.map Condition.toValue)) := mappings_map _ fun _ => rfl
  have actions : mappings (.list (rule.actions.map Action.toValue)) =
      .ok (.list (rule.actions.map Action.toValue)) := mappings_map _ fun _ => rfl
  simp only [Edit.read, Edit.toward, Option.getD_some, conditions, actions, Result.ok_bind]
  refine @Rule.Definition.Holds.read _ { rule with
    id := known.id
    isActive := known.isActive
    createdAt := known.createdAt
    lastExecutedAt := known.lastExecutedAt } ?_ { sound with id := isSound.id } now
  have executed : Field.nullable Field.moment (stampValue known.lastExecutedAt) =
      .good known.lastExecutedAt := by
    cases known.lastExecutedAt with
    | none => rfl
    | some instant => exact Field.nullable_moment_ofInstant instant
  refine ⟨rfl, ?_, ?_, ?_, ?_, ?_, ?_, ?_,
    ⟨.stamp (.ofInstant known.createdAt), ?_, rfl, Field.moment_ofInstant _⟩, ?_, ?_⟩ <;>
      simp [Rule.Definition.entry, executed]

end Catalog

/-- A part of a definition that an edit may replace. -/
inductive Part where
  | name
  | description
  | conditions
  | actions

namespace Part

def isGiven (part : Part) (edit : Catalog.Edit) : Bool :=
  match part with
  | name => edit.name.isSome
  | description => edit.description.isSome
  | conditions => edit.conditions.isSome
  | actions => edit.actions.isSome

/-- Two rules have this part in common. -/
def Same (part : Part) (one other : Rule) : Prop :=
  match part with
  | name => one.name = other.name
  | description => one.description = other.description
  | conditions => one.conditions = other.conditions
  | actions => one.actions = other.actions

theorem Same.refl (part : Part) (rule : Rule) : part.Same rule rule := by
  cases part <;> rfl

theorem Same.congr_left {part : Part} {one other rule : Rule} (same : part.Same one other) :
    part.Same one rule ↔ part.Same other rule := by
  cases part <;> exact Eq.congr_left same

/-- A part that an edit does not give is that of the rule that is edited. -/
theorem same_of_read {part : Part} {edit : Catalog.Edit} {now : Instant} {rule edited : Rule}
    (sound : rule.IsSound) (read : edit.read now rule = .ok edited)
    (missing : part.isGiven edit = false) : part.Same edited rule := by
  rcases Result.bind_eq_ok_iff.mp read with ⟨conditions, met, rest⟩
  rcases Result.bind_eq_ok_iff.mp rest with ⟨actions, taken, built⟩
  cases part with
  | name =>
      have none_ : edit.name = none := by simpa [isGiven] using missing
      exact Rule.Definition.name_of_read built sound.name (by simp [none_])
  | description =>
      have none_ : edit.description = none := by simpa [isGiven] using missing
      exact Rule.Definition.description_of_read built (by simp [none_])
  | conditions =>
      have none_ : edit.conditions = none := by simpa [isGiven] using missing
      rw [none_, Option.getD_none, Catalog.mappings_map _ fun _ => rfl] at met
      cases met
      exact Rule.Definition.conditions_of_read built sound.conditions (by simp)
  | actions =>
      have none_ : edit.actions = none := by simpa [isGiven] using missing
      rw [none_, Option.getD_none, Catalog.mappings_map _ fun _ => rfl] at taken
      cases taken
      exact Rule.Definition.actions_of_read built sound.actions (by simp)

end Part
end Rules

/-! ## Texts that are read -/

deriving instance DecidableEq for Quantity

namespace Value

mutual

/-- Whether two values are the same part by part, told in a way that can be run. -/
def isSame : Value -> Value -> Bool
  | .null, .null => true
  | .bool a, .bool b => a == b
  | .number a, .number b => decide (a = b)
  | .text a, .text b => a == b
  | .bytes a, .bytes b => a == b
  | .date a, .date b => decide (a = b)
  | .stamp a, .stamp b => decide (a = b)
  | .list as, .list bs => areSame as bs
  | .pair a b, .pair c d => a.isSame c && b.isSame d
  | .set as, .set bs => areSame as bs
  | .mapping as, .mapping bs => areSameEntries as bs
  | _, _ => false

def areSame : List Value -> List Value -> Bool
  | [], [] => true
  | a :: as, b :: bs => a.isSame b && areSame as bs
  | _, _ => false

def areSameEntries : List (Value × Value) -> List (Value × Value) -> Bool
  | [], [] => true
  | (key, value) :: as, (other, another) :: bs =>
      key.isSame other && value.isSame another && areSameEntries as bs
  | _, _ => false

end

mutual

theorem eq_of_isSame {a b : Value} (same : a.isSame b = true) : a = b := by
  cases a <;> cases b <;>
    simp only [isSame, Bool.and_eq_true, Bool.false_eq_true, decide_eq_true_eq, beq_iff_eq] at same
  all_goals first
    | rfl
    | rw [same]
    | rw [eq_of_areSame same]
    | rw [eq_of_areSameEntries same]
    | rw [eq_of_isSame same.1, eq_of_isSame same.2]

theorem eq_of_areSame {as bs : List Value} (same : areSame as bs = true) : as = bs := by
  match as, bs with
  | [], [] => rfl
  | a :: as, b :: bs =>
      simp only [areSame, Bool.and_eq_true] at same
      rw [eq_of_isSame same.1, eq_of_areSame same.2]
  | [], _ :: _ => cases same
  | _ :: _, [] => cases same

theorem eq_of_areSameEntries {as bs : List (Value × Value)}
    (same : areSameEntries as bs = true) : as = bs := by
  match as, bs with
  | [], [] => rfl
  | (key, value) :: as, (other, another) :: bs =>
      simp only [areSameEntries, Bool.and_eq_true] at same
      rw [eq_of_isSame same.1.1, eq_of_isSame same.1.2, eq_of_areSameEntries same.2]
  | [], _ :: _ => cases same
  | _ :: _, [] => cases same

end

end Value

theorem append_spelled {one other : String} {front back : List Char}
    (first : one = String.ofList front) (second : other = String.ofList back) :
    one ++ other = String.ofList (front ++ back) := by
  rw [first, second, String.ofList_append]

/-- A text is read as some value where running the reading gives the same one.  The text is spelled
out, as running it would mean to write its bytes first and to read them after that. -/
theorem Yaml.Document.read_spelled {text : String} {chars : List Char} {value : Value}
    (spelled : text = String.ofList chars)
    (same : ((ofChars chars).toOption.any fun read => read.isSame value) = true) :
    read text = .ok value := by
  rw [read, spelled, String.toList_ofList]
  cases answered : ofChars chars with
  | error fault =>
      rw [answered] at same
      cases same
  | ok read =>
      rw [answered] at same
      exact congrArg Except.ok (Value.eq_of_isSame same)

namespace Sample

/-- Two files for rules, in the order of their names. -/
theorem ruleFiles_pair (one other : String) :
    Rule.Directory.ruleFiles [("a.yaml", one), ("b.yaml", other)] =
      [("a.yaml", one), ("b.yaml", other)] := by
  have first : Rule.Directory.isRuleFile "a.yaml" = true := by decide
  have second : Rule.Directory.isRuleFile "b.yaml" = true := by decide
  have before : (!decide ("b.yaml" < "a.yaml")) = true := by decide
  simp only [Rule.Directory.ruleFiles, List.filter_cons, List.filter_nil, first, second, if_true]
  exact List.mergeSort_of_pairwise (List.pairwise_pair.mpr before)

/-- The file of the first rule. -/
def earlyText : String :=
  "id: early\nname: early\ndescription: ''\ntrigger_conditions:\n" ++
  "- field: priority\n  operator: equals\n  value: Low\n" ++
  "actions:\n- type: update_priority\n  target_value: High\n" ++
  "is_active: true\ncreated_at: '2024-01-02T12:00:00+00:00'\n"

theorem text_early : Rule.File.text early = earlyText := by decide +kernel

/-- What the file of the first rule is read as is what was written. -/
theorem early_isUndone :
    Yaml.Document.read (Rule.File.text early) = .ok (Rule.File.definition early) := by
  rw [text_early]
  exact Yaml.Document.read_spelled
    (append_spelled (append_spelled (append_spelled rfl rfl) rfl) rfl) (by decide +kernel)

end Sample
end Triage
