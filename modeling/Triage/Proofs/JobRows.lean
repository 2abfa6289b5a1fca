import Triage.Proofs.TwoShifts

namespace Triage

/-!
# The rows of a job

While a job goes on, nobody else puts rows about its ticket into the trail.  The job itself puts
none there until it has its executions, and then one for each execution that can be recorded, in
their order.  It counts the others.
-/

open Cycle (Job Done Turn Crew)
open Database (ExecutionRow)

namespace Script

variable {S A : Type} {kind : S -> Prop} {along others : S -> S -> Prop}
  {ends : Except Failure A -> Prop} (reflexive : forall state, along state state)
  (transitive : forall first second third, along first second -> along second third ->
    along first third)
  (meanwhile_ : forall before after, others before after -> kind after ∧ along before after)
  {state after : S} {moves : List (Move S)}

include reflexive transitive meanwhile_

theorem Waits.leads (waits : Waits others state moves after) (is : kind state) :
    kind after ∧ along state after := by
  induction waits with
  | nil => exact ⟨is, reflexive _⟩
  | cons moved _ inductionHypothesis =>
      rcases meanwhile_ _ _ moved with ⟨next, one⟩
      rcases inductionHypothesis next with ⟨last, two⟩
      exact ⟨last, transitive _ _ _ one two⟩

/-- Where others move along a relation and so does each step, a run leads along it. -/
theorem Keeps.runs {script : Script S A} (keeps : script.Keeps kind along ends) (is : kind state)
    {result : Except Failure A}
    (runs : Runs (Part.whole S) others script state moves result after) :
    kind after ∧ along state after ∧ ends result := by
  induction script generalizing state moves with
  | done ended =>
      rcases Runs.of_done runs with ⟨rfl, waits⟩
      rcases waits.leads reflexive transitive meanwhile_ is with ⟨last, moved⟩
      exact ⟨last, moved, keeps⟩
  | step act rest inductionHypothesis =>
      rcases Runs.of_step runs with ⟨_, between, _, _, waits, later⟩
      rcases waits.leads reflexive transitive meanwhile_ is with ⟨here, one⟩
      rcases keeps between here with ⟨next, two, goesOn⟩
      rcases inductionHypothesis _ goesOn next later with ⟨last, three, ended⟩
      exact ⟨last, transitive _ _ _ (transitive _ _ _ one two) three, ended⟩

end Script

/-- Behind some rows stand those of executions, all but so many of them. -/
def Trail.HasAllBut (missed : Nat) (executions : List Execution)
    (before after : List ExecutionRow) : Prop :=
  Exists fun written : List Execution => Exists fun added => written.Sublist executions ∧
    written.length + missed = executions.length ∧
    written.mapM ExecutionRow.ofExecution = .ok added ∧ after = before ++ added

namespace Trail.HasAllBut

variable {missed : Nat} {execution : Execution} {executions : List Execution}
  {before between after : List ExecutionRow}

theorem nil (rows : List ExecutionRow) : HasAllBut 0 [] rows rows :=
  ⟨[], [], List.nil_sublist _, rfl, rfl, (List.append_nil rows).symm⟩

theorem cons {row : ExecutionRow} (written : ExecutionRow.ofExecution execution = .ok row)
    (later : HasAllBut missed executions (before ++ [row]) after) :
    HasAllBut missed (execution :: executions) before after := by
  rcases later with ⟨some, added, sublist, many, rows, behind⟩
  refine ⟨execution :: some, row :: added, sublist.cons_cons _, ?_, ?_, ?_⟩
  · rw [List.length_cons, List.length_cons, ← many]
    omega
  · rw [List.mapM_cons, written, rows]
    rfl
  · rw [behind, List.append_assoc, List.singleton_append]

theorem miss (later : HasAllBut missed executions before after) :
    HasAllBut (missed + 1) (execution :: executions) before after := by
  rcases later with ⟨some, added, sublist, many, rows, behind⟩
  refine ⟨some, added, sublist.trans (List.sublist_cons_self _ _), ?_, rows, behind⟩
  rw [List.length_cons, ← many]
  omega

end Trail.HasAllBut

namespace Workplace

variable {S V : Type} {place : Workplace S} {engine : Engine} {id : String} {view : S -> V}
  {turn : Turn S} {workers : Int}

/-- The rows about the ticket of an id are kept, and all others too. -/
structure KeepsRows (place : Workplace S) (id : String) (before after : S) : Prop where
  rows : Engine.rowsOn (place.part.get after) id = Engine.rowsOn (place.part.get before) id
  trail : Trail.Extends (place.part.get before).trailRows (place.part.get after).trailRows

namespace KeepsRows

variable {before between after : S}

theorem refl (state : S) : place.KeepsRows id state state := ⟨rfl, .refl _⟩

theorem trans (one : place.KeepsRows id before between) (two : place.KeepsRows id between after) :
    place.KeepsRows id before after := ⟨two.rows.trans one.rows, one.trail.trans two.trail⟩

theorem of_trail (same : (place.part.get after).trailRows = (place.part.get before).trailRows) :
    place.KeepsRows id before after := ⟨Engine.rowsOn_of_trail same id, .of_eq same⟩

end KeepsRows

/-- What others do in the meantime touches nothing about the ticket. -/
theorem Unmoved.of_waits {before after : S} {moves : List (Script.Move S)}
    (waits : Script.Waits (Crew.Meanwhile (place.IsReady engine) (place.Unmoved engine id view))
      before moves after) (ready : place.IsReady engine before) :
    place.IsReady engine after ∧ place.Unmoved engine id view before after :=
  waits.leads Unmoved.refl (fun _ _ _ one two => one.trans two) (fun _ _ moved => moved) ready

/-- Whatever a plan needs leaves the trail alone. -/
theorem leads_keepsRows (sound : place.IsSound engine) (ticketId : String) :
    place.Leads engine (place.KeepsRows id) ticketId := by
  have unseen {A : Type} {act : Act S A} (quiet : act.Along (Engine.Unseen place.part)) :
      place.Passes engine (place.KeepsRows id) act :=
    passes_of_unseen quiet fun state ready =>
      .of_trail (Engine.same_of_standing (quiet state ready.calm).2).2.2.2
  refine ⟨.refl, fun _ _ _ one two => one.trans two, unseen sound.draw_unseen,
    fun dispatch known target text => unseen (sound.dispatch dispatch known target text),
    unseen (sound.enter _), unseen (sound.hampers.find_unseen _),
    fun updates expected state ready => ?_⟩
  have beside := sound.change_beside ready ticketId updates expected
  exact ⟨beside.ready, .of_trail (Engine.same_of_aside beside.aside).2.2⟩

/-- The rows about its ticket after an execution was recorded, or was not. -/
theorem Noted.rows {execution : Execution} {state : S} (noted : place.Noted engine execution state) :
    (((place.record execution).perform state).1 = .ok () ∧ Exists fun row =>
      ExecutionRow.ofExecution execution = .ok row ∧
      Engine.rowsOn (place.part.get ((place.record execution).perform state).2)
        execution.ticketId = Engine.rowsOn (place.part.get state) execution.ticketId ++ [row]) ∨
    ((Exists fun failure => ((place.record execution).perform state).1 = .error failure ∧
        failure.isOf .audit = true) ∧
      Engine.rowsOn (place.part.get ((place.record execution).perform state).2)
        execution.ticketId = Engine.rowsOn (place.part.get state) execution.ticketId) := by
  rcases noted.trail with ⟨fine, rows, row, stored, written, trail⟩ | ⟨refused, trail⟩
  · refine .inl ⟨fine, row, written, ?_⟩
    have about : row.ticketId.isText execution.ticketId = true := by
      rw [(ExecutionRow.ids_of_ofExecution written).2]
      exact beq_self_eq_true _
    rw [Engine.rowsOn, Engine.rowsOn, trail, stored, Option.getD_some, Option.getD_some,
      List.filter_append, List.filter_cons, if_pos about, List.filter_nil]
  · exact .inr ⟨refused, Engine.rowsOn_of_trail trail _⟩

section Own

variable (sound : place.IsSound engine)

include sound

/-- A run that records some executions records the first one, and then the others; a failure counts. -/
theorem of_runs_recordSteps {execution : Execution} {executions : List Execution} {state after : S}
    {moves : List (Script.Move S)} {missed : Nat} (ready : place.IsReady engine state)
    (runs : Script.Runs (Part.whole S)
      (Crew.Meanwhile (place.IsReady engine) (place.Unmoved engine id view))
      (Cycle.recordSteps (place.desk engine) (execution :: executions)) state moves (.ok missed)
        after) :
    Exists fun between => Exists fun next => Exists fun later => Exists fun rest =>
      place.IsReady engine between ∧ place.Unmoved engine id view state between ∧
      place.IsReady engine next ∧
      place.Unmoved engine id view ((place.record execution).perform between).2 next ∧
      Script.Runs (Part.whole S)
        (Crew.Meanwhile (place.IsReady engine) (place.Unmoved engine id view))
        (Cycle.recordSteps (place.desk engine) executions) next later (.ok rest) after ∧
      missed = rest + if ((place.record execution).perform between).1.isOk then 0 else 1 := by
  rcases Script.Runs.of_andThen runs with ⟨first, later, answer, next, _, recorded, goesOn⟩
  rcases Script.Runs.of_one recorded with ⟨_, between, _, _, answered, before, behind⟩
  rcases Unmoved.of_waits before ready with ⟨here, kept⟩
  have noted := sound.noted here execution
  rcases Unmoved.of_waits behind noted.ready with ⟨there, still⟩
  rcases noted.trail with ⟨fine, _⟩ | ⟨⟨failure, refused, audit⟩, _⟩
  · cases answered.symm.trans fine
    exact ⟨between, next, later, missed, here, kept, there, still, goesOn, by rw [fine]; rfl⟩
  · cases answered.symm.trans refused
    simp only [audit, if_true] at goesOn
    rcases Script.Runs.of_bind goesOn with ⟨_, _, count, last, _, noting, counted⟩
    rcases Script.Runs.of_done counted with ⟨total, waits⟩
    cases total
    exact ⟨between, next, _, count, here, kept, there, still, noting.waits waits,
      by rw [refused]; rfl⟩

/-- Recording executions puts rows for all but those that are counted. -/
theorem rows_of_recordSteps {executions : List Execution}
    (about : forall execution, execution ∈ executions -> execution.ticketId = id) {state after : S}
    {moves : List (Script.Move S)} {missed : Nat} (ready : place.IsReady engine state)
    (runs : Script.Runs (Part.whole S)
      (Crew.Meanwhile (place.IsReady engine) (place.Unmoved engine id view))
      (Cycle.recordSteps (place.desk engine) executions) state moves (.ok missed) after) :
    place.IsReady engine after ∧ Trail.HasAllBut missed executions
      (Engine.rowsOn (place.part.get state) id) (Engine.rowsOn (place.part.get after) id) := by
  induction executions generalizing state after moves missed with
  | nil =>
      rcases Script.Runs.of_done runs with ⟨same, waits⟩
      rcases Unmoved.of_waits waits ready with ⟨last, kept⟩
      cases same
      rw [kept.still.rows]
      exact ⟨last, .nil _⟩
  | cons execution rest inductionHypothesis =>
      rcases of_runs_recordSteps sound ready runs with
        ⟨between, next, _, count, here, kept, there, still, goesOn, rfl⟩
      rcases inductionHypothesis (fun other member => about other (List.mem_cons_of_mem _ member))
        there goesOn with ⟨last, all⟩
      have rows := (sound.noted here execution).rows
      rw [about execution List.mem_cons_self, kept.still.rows] at rows
      rw [still.still.rows] at all
      rcases rows with ⟨fine, row, written, grew⟩ | ⟨⟨failure, refused, _⟩, stayed⟩
      · rw [grew] at all
        rw [fine]
        exact ⟨last, .cons written all⟩
      · rw [stayed] at all
        rw [refused]
        exact ⟨last, all.miss⟩

omit sound in
/-- A run of a job is one up to its executions, and one in which these are recorded. -/
theorem of_runs_toDo {others : S -> S -> Prop} {matchedAt : Instant} {cycleId : String} {job : Job}
    {state after : S} {moves : List (Script.Move S)} {done : Done}
    (runs : Script.Runs (Part.whole S) others (place.toDo engine matchedAt cycleId job) state moves
      (.ok done) after) :
    Exists fun first => Exists fun later => Exists fun between =>
      Script.Runs (Part.whole S) others ((place.attemptSteps matchedAt cycleId job).bind
        (place.executionSteps engine matchedAt cycleId job)) state first (.ok done.executions)
          between ∧
      Script.Runs (Part.whole S) others (Cycle.recordSteps (place.desk engine) done.executions)
        between later (.ok done.auditFailures) after := by
  rcases Script.Runs.of_bind runs with ⟨first, _, executions, between, _, made, noted⟩
  rcases Script.Runs.of_bind noted with ⟨_, _, missed, _, _, recorded, ended⟩
  rcases Script.Runs.of_done ended with ⟨same, waits⟩
  cases same
  exact ⟨first, _, between, made, recorded.waits waits⟩

/-- Up to its executions a job puts no rows into the trail. -/
theorem rows_of_executionSteps {matchedAt : Instant} {cycleId : String} {job : Job}
    {state after : S} {moves : List (Script.Move S)} {executions : List Execution}
    (ready : place.IsReady engine state)
    (runs : Script.Runs (Part.whole S)
      (Crew.Meanwhile (place.IsReady engine) (place.Unmoved engine job.ticket.id view))
      ((place.attemptSteps matchedAt cycleId job).bind
        (place.executionSteps engine matchedAt cycleId job)) state moves (.ok executions) after) :
    place.IsReady engine after ∧ place.KeepsRows job.ticket.id state after ∧
      forall execution, execution ∈ executions -> execution.ticketId = job.ticket.id := by
  rcases ((leads_keepsRows sound job.ticket.id).executionSteps sound matchedAt cycleId rfl).runs
    KeepsRows.refl (fun _ _ _ one two => one.trans two)
    (fun _ _ moved => ⟨moved.1, moved.2.still.rows, moved.2.still.trail⟩) ready runs with
    ⟨last, kept, ⟨_, same, about⟩⟩
  cases same
  exact ⟨last, kept, about⟩

/-- A job that was done left rows behind for all its executions but those that it counts. -/
theorem job_rows (ready : place.IsReady engine turn.state)
    (shift : place.ShiftAt engine turn workers) {job : Job} {done : Done}
    (member : (job, done) ∈ shift.crew.done) :
    Trail.HasAllBut done.auditFailures done.executions
      (Engine.rowsOn (place.part.get turn.state) job.ticket.id)
      (Engine.rowsOn (place.part.get shift.last.world) job.ticket.id) := by
  rcases (follows shift sound ready (place.spares_nothing job.ticket.id)).done job done member
    rfl with ⟨_, runs⟩
  rcases of_runs_toDo runs with ⟨_, _, between, made, recorded⟩
  rcases rows_of_executionSteps sound (prepared_ready sound ready shift) made with
    ⟨here, kept, about⟩
  have all := (rows_of_recordSteps sound about here recorded).2
  rcases shift_trail sound ready shift with ⟨before, after⟩
  rw [kept.rows, Engine.rowsOn_of_trail before, ← Engine.rowsOn_of_trail after] at all
  exact all

end Own

end Workplace
end Triage
