import Triage.Proofs.Actions
import Triage.Proofs.World
import Triage.Proofs.Written
import Triage.Trail

namespace Triage

/-!
# The trail grows

An execution that is recorded is read back as it was, as long as the targets of its actions are
clean.  Recording either appends the execution, and nothing else changes, or it fails with a
failure of the trail and changes nothing at all.

The trail of a world *grew* by some executions when their rows were put behind those that were
there.  What a trail grew by is determined by its rows before and after.

As long as no row has the id of an execution, whether it is accepted depends on nothing but whether
there is a table, and whether the execution fits into a row.
-/

open Database (Tables ExecutionRow)
open Database.Pool (Does wholly)

namespace Execution

theorem check_actions {actions : List Action}
    (clean : forall action, action ∈ actions -> action.IsClean) :
    checkActions (.list (actions.map Action.toValue)) = .good actions := by
  refine Field.Checked.items_map_eq_good ?_ 0
  intro action member
  exact Action.check_toValue (clean action member)

theorem choice_outcome (outcome : Outcome) :
    Field.choice Outcome.all Outcome.name (.text outcome.name) = .good outcome := by
  cases outcome <;> rfl

end Execution

namespace Trail

variable {execution : Execution} {row : ExecutionRow}

theorem checkOutcome_name (outcome : Outcome) :
    checkOutcome (.text outcome.name) = .ok outcome := by
  simp only [checkOutcome, Value.asText?, Option.bind_some, Outcome.ofName?_name]

theorem toValue_text (s : String) : (Database.Cell.text s).toValue = .text s := rfl

theorem toValue_ofText? (content : Option String) :
    (Database.Cell.ofText? content).toValue = Value.textOrNull content := by
  cases content <;> rfl

/-- The record that a row is read as passes its check. -/
theorem check_written (clean : forall action, action ∈ execution.actions -> action.IsClean)
    (freshId : String) :
    Execution.check freshId (.record [
      ("record_id", .text execution.recordId),
      ("cycle_id", Value.textOrNull execution.cycleId),
      ("rule_id", .text execution.ruleId),
      ("rule_version", .int execution.ruleVersion),
      ("ticket_id", .text execution.ticketId),
      ("matched_at", .stamp (.ofInstant execution.matchedAt)),
      ("actions_applied", .list (execution.actions.map Action.toValue)),
      ("outcome", .text execution.outcome.name),
      ("superseded_by", Value.textOrNull execution.supersededBy),
      ("error", Value.textOrNull execution.error)]) = .good execution := by
  generalize same : Value.record _ = record
  have recordId : Field.optional record "record_id" freshId Field.text =
      .good execution.recordId := Field.optional_of_get? (by simp [<- same]) (Field.text_text _)
  have cycleId : Field.optional record "cycle_id" none (Field.nullable Field.text) =
      .good execution.cycleId :=
    Field.optional_of_get? (by simp [<- same]) (Field.nullable_textOrNull _)
  have ruleId : Field.required record "rule_id" Field.text = .good execution.ruleId :=
    Field.required_of_get? (by simp [<- same]) (Field.text_text _)
  have version : Field.required record "rule_version" Field.whole =
      .good execution.ruleVersion := Field.required_of_get? (by simp [<- same]) (Field.whole_int _)
  have ticketId : Field.required record "ticket_id" Field.text = .good execution.ticketId :=
    Field.required_of_get? (by simp [<- same]) (Field.text_text _)
  have matchedAt : Field.required record "matched_at" Field.moment = .good execution.matchedAt :=
    Field.required_of_get? (by simp [<- same]) (Field.moment_ofInstant _)
  have actions : Field.optional record "actions_applied" [] Execution.checkActions =
      .good execution.actions :=
    Field.optional_of_get? (by simp [<- same]) (Execution.check_actions clean)
  have outcome : Field.required record "outcome" (Field.choice Outcome.all Outcome.name) =
      .good execution.outcome :=
    Field.required_of_get? (by simp [<- same]) (Execution.choice_outcome _)
  have supersededBy : Field.optional record "superseded_by" none (Field.nullable Field.text) =
      .good execution.supersededBy :=
    Field.optional_of_get? (by simp [<- same]) (Field.nullable_textOrNull _)
  have error : Field.optional record "error" none (Field.nullable Field.text) =
      .good execution.error :=
    Field.optional_of_get? (by simp [<- same]) (Field.nullable_textOrNull _)
  simp only [Execution.check, recordId, cycleId, ruleId, version, ticketId, matchedAt, actions,
    outcome, supersededBy, error, Field.Checked.map_good, Field.Checked.seq_good]

/-- A stored execution is read back as it was. -/
theorem ofRow_ofExecution (clean : forall action, action ∈ execution.actions -> action.IsClean)
    (stored : ExecutionRow.ofExecution execution = .ok row) : ofRow row = .ok execution := by
  rcases Result.bind_eq_ok_iff.mp stored with ⟨version, fits, written⟩
  have version_toValue : version.toValue = .int execution.ruleVersion := by
    unfold Database.Cell.ofInt at fits
    split at fits
    · cases fits
      rfl
    · cases fits
  cases written
  simp only [ofRow, Instant.ofText_text, Result.ok_bind, Database.Document.readAll_actions _ clean,
    toValue_text, checkOutcome_name, toValue_ofText?, version_toValue]
  rw [Execution.make, check_written clean, Field.Checked.outcome_good]

/-! ## Recording -/

theorem record_does (execution : Execution) :
    Does (record execution)
      ((wholly (Database.ExecutionTable.insert execution).plain).mapFailure
        (auditFailure "store execution record" (contextOf execution))) :=
  Does.mapFailure _ (Does.update _)

theorem isOf_auditFailure {what : String} {context : List (String × Value)} {failure : Failure}
    (database : failure.isDatabase = true) :
    (auditFailure what context failure).isOf .audit = true := by
  rw [auditFailure, if_pos database]
  rfl

/-- What an insertion that was accepted has done. -/
theorem insert_run {tables after : Tables}
    (inserted : ((Database.ExecutionTable.insert execution).plain.perform tables) =
      (.ok (), after)) :
    Exists fun rows => Exists fun row => tables.executions = some rows ∧
      ExecutionRow.ofExecution execution = .ok row ∧
      after = { tables with executions := some (rows ++ [row]) } := by
  rw [Database.ExecutionTable.insert, Database.ExecutionTable.insertRow,
    Database.Statement.perform_plain_changing] at inserted
  split at inserted
  next answer tables' changed =>
      rcases Result.bind_eq_ok_iff.mp changed with ⟨rows, known, rest⟩
      rcases Result.bind_eq_ok_iff.mp rest with ⟨row, written, put⟩
      have stored : tables.executions = some rows := by
        unfold Tables.executionRows Tables.rowsOf at known
        split at known
        next found =>
            cases known
            assumption
        next => cases known
      split at put
      next => cases put
      next =>
          cases put
          cases inserted
          exact ⟨rows, row, stored, written, rfl⟩
  next => cases inserted

/-- Recording appends the execution, or fails as the trail does and leaves everything. -/
theorem perform_record {database : Database} (rest : database.IsAtRest) (execution : Execution) :
    ((record execution).perform database).2.IsAtRest ∧
      ((((record execution).perform database).1 = .ok () ∧
          Exists fun rows => Exists fun row => database.data.executions = some rows ∧
            ExecutionRow.ofExecution execution = .ok row ∧
            ((record execution).perform database).2.data =
              { database.data with executions := some (rows ++ [row]) }) ∨
        (Exists fun failure => ((record execution).perform database).1 = .error failure ∧
          failure.isOf .audit = true ∧
          ((record execution).perform database).2.data = database.data)) := by
  rcases record_does execution database rest with ⟨answered, again, changed⟩
  refine ⟨again, ?_⟩
  rw [Act.perform_mapFailure] at answered changed
  cases inserted : (Database.ExecutionTable.insert execution).plain.perform database.data with
  | mk result after =>
      cases result with
      | ok answer =>
          rw [Database.Pool.perform_wholly_ok inserted] at answered changed
          rcases insert_run inserted with ⟨rows, row, known, written, same⟩
          exact Or.inl ⟨answered, rows, row, known, written, changed.trans same⟩
      | error failure =>
          have refused := Database.Pool.perform_wholly_error inserted
          rw [refused] at answered changed
          have database_ := Database.Pool.isDatabase_of_wholly (congrArg Prod.fst refused)
          exact Or.inr ⟨_, answered, isOf_auditFailure database_, changed⟩

/-! ## Growth -/

/-- The rows of a trail were put behind those that were there, and are read as these. -/
def Grew (before after : Option (List ExecutionRow)) (appended : List Execution) : Prop :=
  Exists fun added => after.getD [] = before.getD [] ++ added ∧ added.mapM ofRow = .ok appended

theorem Grew.refl (rows : Option (List ExecutionRow)) : Grew rows rows [] :=
  ⟨[], (List.append_nil _).symm, rfl⟩

theorem Grew.trans {first second third : Option (List ExecutionRow)}
    {earlier later : List Execution} (one : Grew first second earlier)
    (two : Grew second third later) : Grew first third (earlier ++ later) := by
  rcases one with ⟨added, behind, read⟩
  rcases two with ⟨more, further, readMore⟩
  refine ⟨added ++ more, ?_, ?_⟩
  · rw [further, behind, List.append_assoc]
  · rw [List.mapM_append, read, readMore]
    rfl

/-- Rows determine what a trail grew by. -/
theorem Grew.unique {before after : Option (List ExecutionRow)} {some other : List Execution}
    (one : Grew before after some) (two : Grew before after other) : some = other := by
  rcases one with ⟨added, behind, read⟩
  rcases two with ⟨others, further, readOthers⟩
  have same : added = others := List.append_cancel_left (behind.symm.trans further)
  rw [same, readOthers] at read
  exact (Except.ok.inj read).symm

end Trail

namespace World

/-- Everything in the world but its trail and the state of the connections. -/
def offTrail (world : World) : World :=
  { world with database := .make 0 { world.database.data with executions := none } }

/-- Recording lets the trail grow by the execution or not at all. -/
theorem perform_record {world : World} (calm : world.IsCalm) {execution : Execution}
    (clean : forall action, action ∈ execution.actions -> action.IsClean) :
    Exists fun result => Exists fun after =>
      (Engine.trail.record execution).perform world = (result, after) ∧ after.IsCalm ∧
        after.offTrail = world.offTrail ∧
        (result = .ok () ∧ Trail.Grew world.trailRows after.trailRows [execution] ∨
          (Exists fun failure => result = .error failure ∧ failure.isOf .audit = true) ∧
            Trail.Grew world.trailRows after.trailRows []) := by
  rcases Trail.perform_record calm execution with ⟨rest, outcome⟩
  refine ⟨_, { world with database := ((Trail.record execution).perform world.database).2 }, rfl,
    rest, ?_⟩
  rcases outcome with ⟨answered, rows, row, known, written, changed⟩ |
    ⟨failure, answered, audit, same⟩
  · refine ⟨by simp only [offTrail, changed], Or.inl ⟨answered, [row], ?_, ?_⟩⟩
    · simp only [trailRows, changed, known, Option.getD_some]
    · rw [List.mapM_cons, Trail.ofRow_ofExecution clean written]
      rfl
  · refine ⟨by simp only [offTrail, same], Or.inr ⟨⟨failure, answered, audit⟩, ?_⟩⟩
    simp only [trailRows, same]
    exact Trail.Grew.refl _

end World

/-! ## What is accepted -/

namespace Database.ExecutionRow

/-- The row of an execution has its id and that of its ticket. -/
theorem ids_of_ofExecution {execution : Execution} {row : ExecutionRow}
    (written : ofExecution execution = .ok row) :
    row.recordId = .text execution.recordId ∧ row.ticketId = .text execution.ticketId := by
  rcases Result.bind_eq_ok_iff.mp written with ⟨version, _, made⟩
  cases made
  exact ⟨rfl, rfl⟩

end Database.ExecutionRow

/-- What fits into a row and has an id of its own is accepted. -/
theorem Trail.record_of_fresh {database : Database} (rest : database.IsAtRest)
    {execution : Execution} {rows : List ExecutionRow} {row : ExecutionRow}
    (stored : database.data.executions = some rows)
    (written : ExecutionRow.ofExecution execution = .ok row) (fresh : rows.any row.sameId = false) :
    ((record execution).perform database).1 = .ok () := by
  have inserted : (Database.ExecutionTable.insert execution).plain.perform database.data =
      (.ok (), { database.data with executions := some (rows ++ [row]) }) := by
    rw [Database.ExecutionTable.insert, Database.ExecutionTable.insertRow,
      Database.Statement.perform_plain_changing, Database.Tables.executionRows, stored, written]
    simp only [Database.Tables.rowsOf, Result.ok_bind, fresh]
    rfl
  rcases record_does execution database rest with ⟨answered, _⟩
  rw [Act.perform_mapFailure, Database.Pool.perform_wholly_ok inserted] at answered
  exact answered

/-- A trail has some rows behind those of an earlier one. -/
def Trail.Extends (before after : Option (List ExecutionRow)) : Prop :=
  Exists fun added => after = before.map (· ++ added)

namespace Trail.Extends

variable {before between after : Option (List ExecutionRow)}

theorem refl (rows : Option (List ExecutionRow)) : Extends rows rows :=
  ⟨[], by cases rows <;> simp⟩

theorem trans (one : Extends before between) (two : Extends between after) :
    Extends before after := by
  rcases one with ⟨added, rfl⟩
  rcases two with ⟨more, rfl⟩
  exact ⟨added ++ more, by cases before <;> simp⟩

theorem of_eq (same : after = before) : Extends before after := same ▸ refl before

theorem isSome_eq (extends_ : Extends before after) : after.isSome = before.isSome := by
  rcases extends_ with ⟨added, rfl⟩
  cases before <;> rfl

theorem subset (extends_ : Extends before after) : before.getD [] ⊆ after.getD [] := by
  rcases extends_ with ⟨added, rfl⟩
  cases before with
  | none => exact List.Subset.refl _
  | some rows => exact List.subset_append_left rows added

end Trail.Extends

namespace Engine

variable {before after : World} {execution : Execution}

/-- The rows of the trail about a ticket. -/
def rowsOn (world : World) (id : String) : List ExecutionRow :=
  (world.trailRows.getD []).filter fun row => row.ticketId.isText id

theorem rowsOn_of_trail (same : after.trailRows = before.trailRows) (id : String) :
    rowsOn after id = rowsOn before id := by rw [rowsOn, rowsOn, same]

/-- What recording does to a calm world: the trail gets a row for the execution, or nothing. -/
theorem record_cases (calm : before.IsCalm) (execution : Execution) :
    (((trail.record execution).perform before).1 = .ok () ∧ Exists fun rows => Exists fun row =>
        before.trailRows = some rows ∧ ExecutionRow.ofExecution execution = .ok row ∧
        ((trail.record execution).perform before).2.trailRows = some (rows ++ [row])) ∨
      ((Exists fun failure => ((trail.record execution).perform before).1 = .error failure ∧
          failure.isOf .audit = true) ∧
        ((trail.record execution).perform before).2.trailRows = before.trailRows) := by
  rcases Trail.perform_record calm execution with ⟨_, outcome⟩
  rcases outcome with ⟨answered, rows, row, known, written, changed⟩ | ⟨failure, answered, audit, same⟩
  · exact .inl ⟨answered, rows, row, known, written,
      congrArg Database.Tables.executions changed⟩
  · exact .inr ⟨⟨failure, answered, audit⟩, congrArg Database.Tables.executions same⟩

/-- An execution with an id of its own is accepted if there is a table and it fits into a row. -/
theorem isOk_record (calm : before.IsCalm)
    (fresh : forall rows row, before.trailRows = some rows ->
      ExecutionRow.ofExecution execution = .ok row -> rows.any row.sameId = false) :
    ((trail.record execution).perform before).1.isOk =
      (before.trailRows.isSome && (ExecutionRow.ofExecution execution).isOk) := by
  rcases record_cases calm execution with ⟨answered, rows, row, stored, written, _⟩ |
    ⟨⟨failure, refused, _⟩, _⟩
  · rw [answered, stored, written]
    rfl
  · cases stored : before.trailRows with
    | none =>
        rw [refused]
        rfl
    | some rows =>
        cases written : ExecutionRow.ofExecution execution with
        | error failure =>
            rw [refused]
            rfl
        | ok row =>
            have accepted : ((trail.record execution).perform before).1 = .ok () :=
              Trail.record_of_fresh calm stored written (fresh rows row stored written)
            rw [refused] at accepted
            cases accepted

theorem record_offTrail (calm : before.IsCalm) (execution : Execution) :
    ((trail.record execution).perform before).2.IsCalm ∧
      ((trail.record execution).perform before).2.offTrail = before.offTrail := by
  rcases Trail.perform_record calm execution with ⟨rest, outcome⟩
  refine ⟨rest, ?_⟩
  have data : { ((Trail.record execution).perform before.database).2.data with
      executions := none } = { before.database.data with executions := none } := by
    rcases outcome with ⟨_, rows, row, _, _, changed⟩ | ⟨_, _, _, same⟩
    · rw [changed]
    · rw [same]
  exact congrArg (fun data => { before with database := .make 0 data }) data

end Engine
end Triage
