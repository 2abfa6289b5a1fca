import Triage.Proofs.Actions
import Triage.Proofs.World
import Triage.Rules.Catalog

namespace Triage

/-!
# The catalog of rules

The catalog reads and writes the table of rules and nothing else, so every operation of it leaves
alone whatever does not show that table: the tickets and the audit trail among them.  Noting when
rules were executed is narrower still.  It writes one column, and fails, if at all, with a
failure of the database.

Whoever wrote the rows, the rules that are read from them have passed the checks of rules, so
their actions have clean targets.
-/

open Database (Tables Statement)
open Database.Pool (Does Leaves)

namespace Rules

/-! ## Rules from rows -/

/-- The actions of a checked rule are those that were checked for it. -/
theorem actions_of_checkWith {conditions : Field.Checked (List Condition)}
    {actions : Field.Checked (List Action)} {record : Value} {rule : Rule}
    (checked : Rule.checkWith conditions actions record = .good rule) :
    actions = .good rule.actions := by
  rcases Field.Checked.seq_eq_good_iff.mp checked with ⟨_, upToUpdated, _, _, rfl⟩
  rcases Field.Checked.seq_eq_good_iff.mp upToUpdated with ⟨_, upToCreated, _, _, rfl⟩
  rcases Field.Checked.seq_eq_good_iff.mp upToCreated with ⟨_, upToVersion, _, _, rfl⟩
  rcases Field.Checked.seq_eq_good_iff.mp upToVersion with ⟨_, upToActive, _, _, rfl⟩
  rcases Field.Checked.seq_eq_good_iff.mp upToActive with ⟨_, upToActions, _, _, rfl⟩
  rcases Field.Checked.seq_eq_good_iff.mp upToActions with ⟨_, upToConditions, _, some_, rfl⟩
  rcases Field.Checked.seq_eq_good_iff.mp upToConditions with ⟨_, upToDescription, _, _, rfl⟩
  rcases Field.Checked.seq_eq_good_iff.mp upToDescription with ⟨_, upToName, _, _, rfl⟩
  rcases Field.Checked.seq_eq_good_iff.mp upToName with ⟨_, upToId, _, _, rfl⟩
  rcases Field.Checked.map_eq_good_iff.mp upToId with ⟨_, _, rfl⟩
  exact some_

theorem eq_of_checkSome {A : Type} {what : String} {value : Value} {items checked : List A}
    (some_ : Rule.checkSome what value items = .good checked) : items = checked := by
  unfold Rule.checkSome at some_
  split at some_
  next => cases some_
  next => exact Field.Checked.good.inj some_

/-- The record that the columns of a row are checked as. -/
def recordOf (row : Database.RuleRow) (version : Int)
    (createdAt updatedAt lastExecutedAt : Value) : Value := .record [
  ("id", row.id.toValue),
  ("name", row.name.toValue),
  ("description",
    if row.description.toValue.isTruthy then row.description.toValue else .text ""),
  ("is_active", .bool row.isActive.toValue.isTruthy),
  ("version", .int version),
  ("created_at", createdAt),
  ("updated_at", updatedAt),
  ("last_executed_at", lastExecutedAt)]

/-- A row is read as a rule where each of its columns is read, and their record passes the check. -/
theorem ofRow_eq_ok_iff {row : Database.RuleRow} {rule : Rule} : ofRow row = .ok rule ↔
    Exists fun conditions => Exists fun actions => Exists fun version =>
      Exists fun createdAt => Exists fun updatedAt => Exists fun lastExecutedAt =>
        row.conditions.readAll "automation.models.rule.RuleCondition" Condition.make =
          .ok conditions ∧
        row.actions.readAll "automation.models.rule.RuleAction" Action.make = .ok actions ∧
        row.version.toValue.toWhole = .ok version ∧ readStamp row.createdAt = .ok createdAt ∧
        readStamp row.updatedAt = .ok updatedAt ∧
        readStampOrNothing row.lastExecutedAt = .ok lastExecutedAt ∧
        Rule.checkWith
          ((Rule.checkSome "condition" (.list []) conditions).under "trigger_conditions")
          ((Rule.checkSome "action" (.list []) actions).under "actions")
          (recordOf row version createdAt updatedAt lastExecutedAt) = .good rule := by
  constructor
  · intro read
    rcases Result.bind_eq_ok_iff.mp read with ⟨conditions, met, rest⟩
    rcases Result.bind_eq_ok_iff.mp rest with ⟨actions, taken, rest⟩
    rcases Result.bind_eq_ok_iff.mp rest with ⟨version, whole, rest⟩
    rcases Result.bind_eq_ok_iff.mp rest with ⟨createdAt, created, rest⟩
    rcases Result.bind_eq_ok_iff.mp rest with ⟨updatedAt, updated, rest⟩
    rcases Result.bind_eq_ok_iff.mp rest with ⟨lastExecutedAt, executed, made⟩
    exact ⟨conditions, actions, version, createdAt, updatedAt, lastExecutedAt, met, taken, whole,
      created, updated, executed, Field.Checked.outcome_eq_ok_iff.mp made⟩
  · rintro ⟨conditions, actions, version, createdAt, updatedAt, lastExecutedAt, met, taken, whole,
      created, updated, executed, checked⟩
    simp only [ofRow, met, taken, whole, created, updated, executed, Result.ok_bind]
    exact Field.Checked.outcome_eq_ok_iff.mpr checked

/-- The actions of a rule that was read have clean targets. -/
theorem isClean_of_ofRow {row : Database.RuleRow} {rule : Rule} (read : ofRow row = .ok rule) :
    forall action, action ∈ rule.actions -> action.IsClean := by
  rcases ofRow_eq_ok_iff.mp read with ⟨_, actions, _, _, _, _, _, stored, _, _, _, _, checked⟩
  have same := eq_of_checkSome (Field.Checked.under_eq_good_iff.mp (actions_of_checkWith checked))
  intro action member
  rw [<- same] at member
  rcases Database.Document.exists_of_readAll stored action member with ⟨record, built⟩
  exact Action.isClean_of_make built

/-- The active rules among rows, in their order. -/
def activeAmong (rows : Option (List Database.RuleRow)) : Except Failure (List Rule) :=
  Except.mapError Catalog.loadingFailure <|
    match rows with
    | none => .error (Database.RuleTable.selectActive.failure (.noTable Tables.ruleTable))
    | some rows =>
        ((rows.filter Database.RuleRow.isActiveRow).mergeSort fun a b => (a.order b).isLE).mapM
          ofRow

theorem active_does :
    Does Catalog.active (Act.of fun tables => (activeAmong tables.rules, tables)) := by
  refine (Does.mapFailure Catalog.loadingFailure
    (Does.reading fun rows : List Database.RuleRow => rows.mapM ofRow)).congr fun tables => ?_
  simp only [Act.perform_mapFailure, Act.perform_of, Tables.ruleRows]
  cases tables.rules <;> rfl

theorem isClean_of_activeAmong {rows : Option (List Database.RuleRow)} {rules : List Rule}
    (read : activeAmong rows = .ok rules) {rule : Rule} (member : rule ∈ rules) :
    forall action, action ∈ rule.actions -> action.IsClean := by
  have inner := Result.mapError_eq_ok_iff.mp read
  cases rows with
  | none => cases inner
  | some rows =>
      have pointwise := Result.forall₂_of_mapM_eq_ok inner
      rcases List.mem_iff_getElem.mp member with ⟨position, bound, rfl⟩
      exact isClean_of_ofRow (pointwise.get (pointwise.length_eq ▸ bound) bound)

/-! ## What the catalog leaves alone -/

namespace Catalog

variable {A B V : Type} {view : Tables -> V}

/-- Acts of the database that leave a view alone, one after the other. -/
theorem bind_leaves {act : Act Database A} {next : A -> Act Database B}
    (first : act.Along (Leaves view)) (later : forall a, (next a).Along (Leaves view)) :
    (act >>= next).Along (Leaves view) :=
  Act.Along.bind (fun one two => one.trans two) first later

theorem pure_leaves (a : A) : (pure a : Act Database A).Along (Leaves view) :=
  Act.Along.pure (Leaves.refl view) a

theorem ofResult_leaves (result : Except Failure A) :
    (Act.ofResult result : Act Database A).Along (Leaves view) :=
  Act.Along.ofResult (Leaves.refl view) result

theorem load_leaves (text : String) (test : Database.RuleRow -> Bool) :
    (load (Database.RuleTable.select text test)).Along (Leaves view) :=
  Act.Along.mapFailure loadingFailure
    (bind_leaves (Database.Pool.reading_leaves view) fun _ => ofResult_leaves _)

theorem find_leaves (id : String) : (find id).Along (Leaves view) :=
  bind_leaves (load_leaves _ _) fun _ => pure_leaves _

theorem require_leaves (id : String) : (require id).Along (Leaves view) := by
  refine bind_leaves (find_leaves id) fun found => ?_
  cases found with
  | some rule => exact pure_leaves rule
  | none => exact ofResult_leaves _

section Edits

variable (blind : forall tables rows, view { tables with rules := rows } = view tables)

include blind

theorem changeRows_leaves (text : String)
    (change : List Database.RuleRow -> Except Database.Fault (A × List Database.RuleRow)) :
    (Database.Pool.update (Database.RuleTable.changeRows text change)).Along (Leaves view) := by
  refine Database.Pool.update_leaves (Statement.run_changing text ?_)
  intro tables answer after changed
  rcases Result.bind_eq_ok_iff.mp changed with ⟨rows, _, rest⟩
  rcases Result.bind_eq_ok_iff.mp rest with ⟨result, _, ended⟩
  cases ended
  exact blind tables _

theorem add_leaves (vocabulary : Option Vocabulary) (rule : Rule) :
    (add vocabulary rule).Along (Leaves view) := by
  refine bind_leaves (ofResult_leaves _) fun _ => bind_leaves (find_leaves rule.id) fun found => ?_
  cases found with
  | some other => exact ofResult_leaves _
  | none => exact bind_leaves (changeRows_leaves blind _ _) fun _ => pure_leaves _

theorem create_leaves (vocabulary : Option Vocabulary) (now : Instant) (freshId : String)
    (draft : Draft) : (create vocabulary now freshId draft).Along (Leaves view) :=
  bind_leaves (ofResult_leaves _) fun rule => add_leaves blind vocabulary rule

theorem update_leaves (vocabulary : Option Vocabulary) (now : Instant) (id : String)
    (edit : Edit) : (update vocabulary now id edit).Along (Leaves view) := by
  refine bind_leaves (require_leaves id) fun rule => bind_leaves (ofResult_leaves _) fun next => ?_
  cases next with
  | none => exact pure_leaves rule
  | some edited => exact bind_leaves (changeRows_leaves blind _ _) fun _ => pure_leaves _

theorem setActive_leaves (id : String) (isActive : Bool) :
    (setActive id isActive).Along (Leaves view) := by
  refine bind_leaves (require_leaves id) fun rule => ?_
  split
  · exact pure_leaves rule
  · exact bind_leaves (changeRows_leaves blind _ _) fun _ => pure_leaves _

theorem delete_leaves (id : String) : (delete id).Along (Leaves view) :=
  bind_leaves (changeRows_leaves blind _ _) fun _ => pure_leaves _

end Edits

/-! ## Noting when rules were executed -/

/-- A row after it was noted when its rule was executed, if it was. -/
def noted (moment : Option Instant) (row : Database.RuleRow) : Database.RuleRow :=
  match moment with
  | some instant => { row with lastExecutedAt := .text instant.text }
  | none => row

theorem noted_noted (later earlier : Option Instant) (row : Database.RuleRow) :
    noted later (noted earlier row) = noted (later.or earlier) row := by
  cases later <;> cases earlier <;> rfl

/-- All that happened to a table of rules is that it was noted when rules were executed. -/
def Noted (before after : Option (List Database.RuleRow)) : Prop :=
  Exists fun moment : Database.RuleRow -> Option Instant =>
    after = before.map fun rows => rows.map fun row => noted (moment row) row

theorem Noted.refl (rows : Option (List Database.RuleRow)) : Noted rows rows := by
  refine ⟨fun _ => none, ?_⟩
  cases rows with
  | none => rfl
  | some rows => exact congrArg some (List.map_id rows).symm

theorem Noted.trans {first second third : Option (List Database.RuleRow)}
    (one : Noted first second) (two : Noted second third) : Noted first third := by
  rcases one with ⟨moment, rfl⟩
  rcases two with ⟨later, rfl⟩
  refine ⟨fun row => (later (noted (moment row) row)).or (moment row), ?_⟩
  rw [Option.map_map]
  congr 1
  funext rows
  rw [Function.comp_apply, List.map_map]
  apply List.map_congr_left
  intro row _
  exact noted_noted _ _ row

/-- Noting when rules were executed changes that column of the table and nothing else. -/
theorem run_markExecuted (ids : List String) (executedAt : Instant) (tables : Tables) :
    Exists fun marked => Noted tables.rules marked ∧
      ((Database.RuleTable.markExecuted ids executedAt).run tables).2 =
        { tables with rules := marked } := by
  rcases tables with ⟨tickets, rules, executions, versions⟩
  cases rules with
  | none => exact ⟨none, Noted.refl none, rfl⟩
  | some rows =>
      refine ⟨some (rows.map fun row => noted (if ids.any fun id => row.id.isText id then
        some executedAt else none) row), ⟨_, rfl⟩, ?_⟩
      change Tables.mk tickets (some (rows.map fun row => if ids.any fun id => row.id.isText id then
        { row with lastExecutedAt := .text executedAt.text } else row)) executions versions = _
      simp only [Tables.mk.injEq, Option.some.injEq, true_and, and_true]
      apply List.map_congr_left
      intro row _
      split <;> rfl

private theorem markExecuted_eq (ids : List String) (executedAt : Instant) :
    markExecuted ids executedAt = pure 0 ∨ Exists fun distinct =>
      markExecuted ids executedAt =
        Database.Pool.update (Database.RuleTable.markExecuted distinct executedAt) := by
  cases nothing : ids.eraseDups.isEmpty with
  | true => exact Or.inl (by simp only [markExecuted, nothing, if_true])
  | false =>
      refine Or.inr ⟨ids.eraseDups, ?_⟩
      simp only [markExecuted, nothing]
      rfl

/-- Noting when rules were executed changes that column of the rules and nothing else. -/
theorem perform_markExecuted {database : Database} (rest : database.IsAtRest)
    (ids : List String) (executedAt : Instant) :
    ((markExecuted ids executedAt).perform database).2.IsAtRest ∧ Exists fun marked =>
      Noted database.data.rules marked ∧
      ((markExecuted ids executedAt).perform database).2.data =
        { database.data with rules := marked } := by
  rcases markExecuted_eq ids executedAt with nothing | ⟨distinct, some_⟩
  · rw [nothing]
    exact ⟨rest, _, Noted.refl _, rfl⟩
  · rw [some_]
    rcases Does.update (Database.RuleTable.markExecuted distinct executedAt) database rest with
      ⟨_, again, changed⟩
    refine ⟨again, ?_⟩
    rw [changed]
    cases ran : (Database.RuleTable.markExecuted distinct executedAt).plain.perform
      database.data with
    | mk result after =>
        cases result with
        | error failure =>
            rw [Database.Pool.perform_wholly_error ran]
            exact ⟨_, Noted.refl _, rfl⟩
        | ok count =>
            rw [Database.Pool.perform_wholly_ok ran]
            have same : ((Database.RuleTable.markExecuted distinct executedAt).run
              database.data).2 = after := congrArg Prod.snd ran
            rw [<- same]
            exact run_markExecuted distinct executedAt database.data

/-- Noting fails with failures of the database only. -/
theorem isDatabase_of_markExecuted {database : Database} (rest : database.IsAtRest)
    {ids : List String} {executedAt : Instant} {failure : Failure}
    (failed : ((markExecuted ids executedAt).perform database).1 = .error failure) :
    failure.isDatabase = true := by
  rcases markExecuted_eq ids executedAt with nothing | ⟨distinct, some_⟩
  · rw [nothing] at failed
    cases failed
  · rw [some_] at failed
    rcases Does.update (Database.RuleTable.markExecuted distinct executedAt) database rest with
      ⟨answered, _⟩
    rw [answered] at failed
    exact Database.Pool.isDatabase_of_wholly failed

end Catalog
end Rules
end Triage
