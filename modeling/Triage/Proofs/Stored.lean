import Triage.Proofs.Catalog
import Triage.Proofs.Written

namespace Triage

/-!
# Rules that are stored

A rule that passes its own checks is read back from the row it was stored in.  Its time of change is
filled in where it was never changed, and nothing else is different.

A row in which it was noted when its rule was executed is read as the same rule, apart from that
time.  So noting never keeps rules from being read.
-/

namespace Condition

/-- A condition that passes its own check. -/
structure IsSound (condition : Condition) : Prop where
  allowed : condition.criterion.scale.allows condition.comparison = true
  operand : Operand.check condition.criterion condition.operand.toValue = .good condition.operand

theorem check_toValue {condition : Condition} (sound : condition.IsSound) :
    check condition.toValue = .good condition := by
  have criterion : Field.required condition.toValue "field"
      (Field.choice Criterion.all Criterion.name) = .good condition.criterion := by
    have found : condition.toValue.get? "field" = some (.text condition.criterion.name) := by
      simp [toValue]
    refine Field.required_of_get? found ?_
    cases condition.criterion <;> rfl
  have comparison : Field.required condition.toValue "operator"
      (Field.choice Comparison.all Comparison.name) = .good condition.comparison := by
    have found : condition.toValue.get? "operator" = some (.text condition.comparison.name) := by
      simp [toValue]
    refine Field.required_of_get? found ?_
    cases condition.comparison <;> rfl
  have operand : Field.required condition.toValue "value"
      (checkOperand (.good condition.criterion)) = .good condition.operand :=
    Field.required_of_get? (by simp [toValue]) sound.operand
  simp only [check, criterion, comparison, operand, Field.Checked.map_good,
    Field.Checked.seq_good, Field.Checked.andThen_good]
  rw [checkComparison, if_pos sound.allowed]

theorem make_toValue {condition : Condition} (sound : condition.IsSound) :
    make condition.toValue = .ok condition := by
  rw [make, check_toValue sound, Field.Checked.outcome_good]

end Condition

namespace Rule

/-- A rule that passes its own checks. -/
structure IsSound (rule : Rule) : Prop where
  id : isId rule.id = true
  name : Text.IsClean rule.name
  someConditions : rule.conditions ≠ []
  conditions : forall condition, condition ∈ rule.conditions -> condition.IsSound
  someActions : rule.actions ≠ []
  actions : forall action, action ∈ rule.actions -> action.IsClean
  version : 1 ≤ rule.version

/-- A rule without the time at which it was executed. -/
def unexecuted (rule : Rule) : Rule := { rule with lastExecutedAt := none }

/-- A rule as it is after it was stored. -/
def stored (rule : Rule) : Rule :=
  { rule with updatedAt := some (rule.updatedAt.getD rule.createdAt) }

end Rule

namespace Rules

variable {rule : Rule} {row : Database.RuleRow}

theorem readStamp_text (instant : Instant) :
    readStamp (.text instant.text) = .ok (.stamp (.ofInstant instant)) := by
  rw [readStamp, Instant.ofText_text]
  rfl

theorem readStampOrNothing_moment (moment : Option Instant) :
    readStampOrNothing (Database.RuleRow.moment moment) =
      .ok ((moment.map fun instant => Value.stamp (.ofInstant instant)).getD .null) := by
  cases moment with
  | none => rfl
  | some instant =>
      have written : (Value.text instant.text).isTruthy = true := by
        cases empty : instant.text.isEmpty with
        | true =>
            have read := readStamp_text instant
            rw [String.isEmpty_iff.mp empty] at read
            cases read
        | false => simp only [Value.isTruthy, empty, Bool.not_false]
      have cell : (Database.RuleRow.moment (some instant)).toValue = .text instant.text := rfl
      rw [readStampOrNothing, cell, if_pos written]
      exact readStamp_text instant

/-- The record that a row is read as passes its check. -/
theorem check_stored (sound : rule.IsSound) :
    Rule.checkWith
      ((Rule.checkSome "condition" (.list []) rule.conditions).under "trigger_conditions")
      ((Rule.checkSome "action" (.list []) rule.actions).under "actions") (.record [
        ("id", .text rule.id),
        ("name", .text rule.name),
        ("description", .text rule.description),
        ("is_active", .bool rule.isActive),
        ("version", .int rule.version),
        ("created_at", .stamp (.ofInstant rule.createdAt)),
        ("updated_at", .stamp (.ofInstant (rule.updatedAt.getD rule.createdAt))),
        ("last_executed_at", (rule.lastExecutedAt.map fun instant =>
          Value.stamp (.ofInstant instant)).getD .null)]) = .good rule.stored := by
  generalize same : Value.record _ = record
  have id : Field.required record "id" Rule.checkId = .good rule.id := by
    have found : record.get? "id" = some (.text rule.id) := by simp [<- same]
    refine Field.required_of_get? found ?_
    rw [Rule.checkId, Field.text_text, Field.Checked.andThen_good, if_pos sound.id]
  have name : Field.required record "name" Rule.checkName = .good rule.name := by
    have found : record.get? "name" = some (.text rule.name) := by simp [<- same]
    refine Field.required_of_get? found ?_
    rw [Rule.checkName, Field.text_text, Field.Checked.andThen_good, sound.name.not_blank,
      sound.name.trim_eq, if_neg Bool.false_ne_true]
  have description : Field.optional record "description" "" Field.text =
      .good rule.description :=
    Field.optional_of_get? (by simp [<- same]) (Field.text_text _)
  have isActive : Field.optional record "is_active" true Field.flag = .good rule.isActive := by
    have found : record.get? "is_active" = some (.bool rule.isActive) := by simp [<- same]
    exact Field.optional_of_get? found rfl
  have version : Field.optional record "version" 1 Rule.checkVersion = .good rule.version := by
    have high : ¬rule.version < 1 := Int.not_lt.mpr sound.version
    have found : record.get? "version" = some (.int rule.version) := by simp [<- same]
    refine Field.optional_of_get? found ?_
    rw [Rule.checkVersion, Field.whole_int, Field.Checked.andThen_good, if_neg high]
  have createdAt : Field.required record "created_at" Field.moment = .good rule.createdAt :=
    Field.required_of_get? (by simp [<- same]) (Field.moment_ofInstant _)
  have updatedAt : Field.optional record "updated_at" none (Field.nullable Field.moment) =
      .good (some (rule.updatedAt.getD rule.createdAt)) := by
    refine Field.optional_of_get? (by simp [<- same]; rfl) ?_
    rw [Field.nullable, Field.moment_ofInstant]
    · rfl
    · exact nofun
  have lastExecutedAt : Field.optional record "last_executed_at" none
      (Field.nullable Field.moment) = .good rule.lastExecutedAt := by
    refine Field.optional_of_get? (by simp [<- same]; rfl) ?_
    cases rule.lastExecutedAt with
    | none => rfl
    | some instant =>
        rw [Option.map_some, Option.getD_some, Field.nullable, Field.moment_ofInstant]
        · rfl
        · exact nofun
  have conditions : (Rule.checkSome "condition" (.list []) rule.conditions) =
      .good rule.conditions := by
    rw [Rule.checkSome, if_neg fun empty => sound.someConditions (List.isEmpty_iff.mp empty)]
  have actions : (Rule.checkSome "action" (.list []) rule.actions) = .good rule.actions := by
    rw [Rule.checkSome, if_neg fun empty => sound.someActions (List.isEmpty_iff.mp empty)]
  simp only [Rule.checkWith, id, name, description, conditions, actions, isActive, version,
    createdAt, updatedAt, lastExecutedAt, Field.Checked.under_good, Field.Checked.map_good,
    Field.Checked.seq_good]
  rfl

/-- A rule that passes its checks is read back from its row. -/
theorem ofRow_ofRule (sound : rule.IsSound) (written : Database.RuleRow.ofRule rule = .ok row) :
    ofRow row = .ok rule.stored := by
  rcases Result.bind_eq_ok_iff.mp written with ⟨version, fits, made⟩
  have version_toValue : version.toValue = .int rule.version := by
    unfold Database.Cell.ofInt at fits
    split at fits
    · cases fits
      rfl
    · cases fits
  have conditions : (Database.RuleRow.conditionsOf rule).readAll
      "automation.models.rule.RuleCondition" Condition.make = .ok rule.conditions :=
    Database.Document.readAll_map _ fun condition member =>
      Condition.make_toValue (sound.conditions condition member)
  have actions : (Database.RuleRow.actionsOf rule).readAll
      "automation.models.rule.RuleAction" Action.make = .ok rule.actions :=
    Database.Document.readAll_actions _ sound.actions
  have described : (if (Value.text rule.description).isTruthy then
      Value.text rule.description else .text "") = .text rule.description := by
    cases empty : rule.description.isEmpty with
    | true => rw [String.isEmpty_iff.mp empty]; rfl
    | false => simp only [Value.isTruthy, empty, Bool.not_false, if_true]
  have flagged : (Database.RuleRow.flag rule.isActive).toValue.isTruthy = rule.isActive := by
    cases rule.isActive <;> rfl
  have whole : (Value.int rule.version).toWhole = .ok rule.version := rfl
  have cell (s : String) : (Database.Cell.text s).toValue = .text s := rfl
  cases made
  simp only [ofRow, conditions, actions, version_toValue, whole, readStamp_text,
    readStampOrNothing_moment, cell, described, flagged, Result.ok_bind, check_stored sound,
    Field.Checked.outcome_good]

/-! ## Rules that were executed -/

/-- The time at which a rule was executed is checked apart from everything else. -/
theorem checkWith_noted {conditions : Field.Checked (List Condition)}
    {actions : Field.Checked (List Action)} {record other : Value} {moment : Option Instant}
    (same : forall name, name ≠ "last_executed_at" -> other.get? name = record.get? name)
    (checked : Rule.checkWith conditions actions record = .good rule)
    (last : Field.optional other "last_executed_at" none (Field.nullable Field.moment) =
      .good moment) :
    Rule.checkWith conditions actions other = .good { rule with lastExecutedAt := moment } := by
  have required {A : Type} {name : String} {check : Value -> Field.Checked A} {a : A}
      (good : Field.required record name check = .good a) (apart : name ≠ "last_executed_at") :
      Field.required other name check = .good a := by
    rcases Field.required_eq_good_iff.mp good with ⟨value, found, passed⟩
    exact Field.required_of_get? ((same name apart).trans found) passed
  have optional {A : Type} {name : String} {absent : A} {check : Value -> Field.Checked A} {a : A}
      (good : Field.optional record name absent check = .good a)
      (apart : name ≠ "last_executed_at") :
      Field.optional other name absent check = .good a := by
    rw [Field.optional, same name apart]
    exact good
  rcases Field.Checked.seq_eq_good_iff.mp checked with ⟨_, upToUpdated, _, _, rfl⟩
  rcases Field.Checked.seq_eq_good_iff.mp upToUpdated with ⟨_, upToCreated, _, updatedAt, rfl⟩
  rcases Field.Checked.seq_eq_good_iff.mp upToCreated with ⟨_, upToVersion, _, createdAt, rfl⟩
  rcases Field.Checked.seq_eq_good_iff.mp upToVersion with ⟨_, upToActive, _, version, rfl⟩
  rcases Field.Checked.seq_eq_good_iff.mp upToActive with ⟨_, upToActions, _, isActive, rfl⟩
  rcases Field.Checked.seq_eq_good_iff.mp upToActions with ⟨_, upToConditions, _, taken, rfl⟩
  rcases Field.Checked.seq_eq_good_iff.mp upToConditions with ⟨_, upToDescription, _, met, rfl⟩
  rcases Field.Checked.seq_eq_good_iff.mp upToDescription with ⟨_, upToName, _, described, rfl⟩
  rcases Field.Checked.seq_eq_good_iff.mp upToName with ⟨_, upToId, _, named, rfl⟩
  rcases Field.Checked.map_eq_good_iff.mp upToId with ⟨_, id, rfl⟩
  simp only [Rule.checkWith, last, taken, met, required id (by decide),
    required named (by decide), optional described (by decide), optional isActive (by decide),
    optional version (by decide), required createdAt (by decide), optional updatedAt (by decide),
    Field.Checked.map_good, Field.Checked.seq_good]

/-- A row in which it was noted when its rule was executed is still read as that rule. -/
theorem ofRow_noted (read : ofRow row = .ok rule) (moment : Option Instant) :
    Exists fun later => ofRow (Catalog.noted moment row) = .ok later ∧
      later.unexecuted = rule.unexecuted := by
  cases moment with
  | none => exact ⟨rule, read, rfl⟩
  | some instant =>
      rcases ofRow_eq_ok_iff.mp read with ⟨conditions, actions, version, createdAt, updatedAt,
        lastExecutedAt, met, taken, whole, created, updated, _, checked⟩
      have now : readStampOrNothing (.text instant.text) = .ok (.stamp (.ofInstant instant)) :=
        readStampOrNothing_moment (some instant)
      refine ⟨{ rule with lastExecutedAt := some instant }, ofRow_eq_ok_iff.mpr ⟨conditions,
        actions, version, createdAt, updatedAt, _, met, taken, whole, created, updated, now, ?_⟩, rfl⟩
      refine checkWith_noted ?_ checked
        (Field.optional_of_get? ?_ (Field.nullable_moment_ofInstant instant))
      · intro name apart
        have different : ("last_executed_at" == name) = false :=
          beq_eq_false_iff_ne.mpr apart.symm
        simp only [recordOf, Value.get?_record_cons, different, Bool.false_eq_true, if_false]
        rfl
      · simp [recordOf]

theorem mapM_noted {rows : List Database.RuleRow} {rules : List Rule}
    (read : rows.mapM ofRow = .ok rules) (moment : Database.RuleRow -> Option Instant) :
    Exists fun later =>
      (rows.map fun row => Catalog.noted (moment row) row).mapM ofRow = .ok later ∧
        later.map Rule.unexecuted = rules.map Rule.unexecuted := by
  have pointwise := Result.forall₂_of_mapM_eq_ok read
  clear read
  induction pointwise with
  | nil => exact ⟨[], rfl, rfl⟩
  | @cons row rule _ _ first _ inductionHypothesis =>
      rcases inductionHypothesis with ⟨others, rest, same⟩
      rcases ofRow_noted first (moment row) with ⟨later, noted, equal⟩
      refine ⟨later :: others, ?_, by rw [List.map_cons, List.map_cons, equal, same]⟩
      rw [List.map_cons, List.mapM_cons, noted, Result.ok_bind, rest]
      rfl

/-- Noting when rules were executed never keeps the active ones from being read. -/
theorem activeAmong_noted {before after : Option (List Database.RuleRow)} {rules : List Rule}
    (noted : Catalog.Noted before after) (read : activeAmong before = .ok rules) :
    Exists fun later => activeAmong after = .ok later ∧
      later.map Rule.unexecuted = rules.map Rule.unexecuted := by
  rcases noted with ⟨moment, rfl⟩
  have inner := Result.mapError_eq_ok_iff.mp read
  cases before with
  | none => cases inner
  | some rows =>
      have order (a b : Database.RuleRow) : (a.order b).isLE =
          ((Catalog.noted (moment a) a).order (Catalog.noted (moment b) b)).isLE := by
        cases moment a <;> cases moment b <;> rfl
      have active (row : Database.RuleRow) :
          (Catalog.noted (moment row) row).isActiveRow = row.isActiveRow := by
        cases moment row <;> rfl
      have kept : (rows.map fun row => Catalog.noted (moment row) row).filter
          Database.RuleRow.isActiveRow = (rows.filter Database.RuleRow.isActiveRow).map
            fun row => Catalog.noted (moment row) row := by
        rw [List.filter_map]
        congr 2
        funext row
        exact active row
      have sorted := @List.map_mergeSort _ _ (fun a b : Database.RuleRow => (a.order b).isLE)
        (fun a b => (a.order b).isLE) (fun row => Catalog.noted (moment row) row)
          (rows.filter Database.RuleRow.isActiveRow) fun a _ b _ => order a b
      rcases mapM_noted inner moment with ⟨later, again, same⟩
      refine ⟨later, ?_, same⟩
      rw [sorted, <- kept] at again
      exact Result.mapError_eq_ok_iff.mpr again

end Rules
end Triage
