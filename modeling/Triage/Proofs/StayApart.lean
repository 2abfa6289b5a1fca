import Triage.Proofs.FreshIds
import Triage.Proofs.OutcomesStand

namespace Triage

/-!
# Tickets stay apart

Within a cycle no ticket has to do with another.  Two shifts may take on different tickets, at
workplaces where different things go wrong about these, and do their jobs in different orders: what
becomes of a ticket that is the same in both, and what is noted about it, is the same but for ids.

That something is noted in both, or in neither, is up to whether the execution reaches the trail.
There it is accepted as long as its id is its own, which is so where ids are drawn and never drawn
again.
-/

open Cycle (Job Done Shift Turn Crew)
open Database (ExecutionRow)

/-! ## Rows but for their ids -/

namespace Database.ExecutionRow

/-- A row without the ids that were drawn for it. -/
def anonymous (row : ExecutionRow) : ExecutionRow :=
  { row with
    recordId := .null
    cycleId := .null }

/-- Executions that are the same but for their ids have such rows, or none. -/
theorem anonymous_ofExecution {execution twin : Execution}
    (same : execution.anonymous = twin.anonymous) :
    (ofExecution execution).map anonymous = (ofExecution twin).map anonymous := by
  have known (execution : Execution) : (ofExecution execution).map anonymous =
      (ofExecution execution.anonymous).map anonymous := by
    have version : execution.anonymous.ruleVersion = execution.ruleVersion := rfl
    rw [ofExecution, ofExecution, version]
    cases Cell.ofInt execution.ruleVersion <;> rfl
  rw [known, known twin, same]

/-- A row has an id of its own among rows that have other ids. -/
theorem any_sameId_of_forall_ne {rows : List ExecutionRow} {row : ExecutionRow} {id : String}
    (named : row.recordId = .text id)
    (apart : forall other, other ∈ rows -> other.recordId ≠ .text id) :
    rows.any row.sameId = false := by
  refine List.any_eq_false.mpr fun other inside same => ?_
  refine apart other inside ?_
  rw [sameId, named] at same
  cases known : other.recordId with
  | text id_ =>
      rw [known] at same
      rw [beq_iff_eq.mp same]
  | _ =>
      rw [known] at same
      cases same

end Database.ExecutionRow

/-- To the rows that were there, two trails got rows that are the same but for their ids. -/
def Trail.GrowAlike (before after elsewhere final : List ExecutionRow) : Prop :=
  Exists fun added => Exists fun added_ => after = before ++ added ∧ final = elsewhere ++ added_ ∧
    added.map ExecutionRow.anonymous = added_.map ExecutionRow.anonymous

namespace Trail.GrowAlike

variable {before after elsewhere final : List ExecutionRow} {row twin : ExecutionRow}

theorem refl (before elsewhere : List ExecutionRow) :
    GrowAlike before before elsewhere elsewhere :=
  ⟨[], [], (List.append_nil _).symm, (List.append_nil _).symm, rfl⟩

theorem cons (same : row.anonymous = twin.anonymous)
    (later : GrowAlike (before ++ [row]) after (elsewhere ++ [twin]) final) :
    GrowAlike before after elsewhere final := by
  rcases later with ⟨added, added_, rfl, rfl, alike⟩
  exact ⟨row :: added, twin :: added_, List.append_assoc _ _ _, List.append_assoc _ _ _,
    congrArg₂ List.cons same alike⟩

end Trail.GrowAlike

namespace Workplace

variable {S R V : Type} {place : Workplace S} {other : Workplace R} {engine : Engine} {id : String}
  {view : S -> V} {sight : R -> V} {turn : Turn S} {turn_ : Turn R} {workers workers_ : Int}

/-! ## Noting the same -/

/-- The executions about the ticket of an id reach the trail at both workplaces, or are refused at
both. -/
def NotesAlike (place : Workplace S) (other : Workplace R) (id : String) (view : S -> V)
    (sight : R -> V) : Prop :=
  forall execution twin, Execution.anonymous execution = Execution.anonymous twin ->
    execution.ticketId = id -> forall state elsewhere, view state = sight elsewhere ->
      place.part.Does (Engine.trail.record execution) (place.record execution) state ∧
          other.part.Does (Engine.trail.record twin) (other.record twin) elsewhere ∨
        ((place.record execution).perform state).1.isOk = false ∧
          ((other.record twin).perform elsewhere).1.isOk = false

/-- Two states in which there is a trail or is none, and ids are still to be drawn that nothing in
the trail has. -/
structure TrailsAlike (place : Workplace S) (other : Workplace R) (state : S) (elsewhere : R) :
    Prop where
  table : (place.part.get state).trailRows.isSome = (other.part.get elsewhere).trailRows.isSome
  countsUp : place.CountsUp
  countsUp_ : other.CountsUp
  fresh : (place.part.get state).DrawsFresh
  fresh_ : (other.part.get elsewhere).DrawsFresh

section Notes

variable {execution twin : Execution} {executions twins : List Execution} {state after : S}
  {elsewhere final : R} {moves : List (Script.Move S)} {turns : List (Script.Move R)}
  {missed missed_ : Nat}

/-- Recording leaves the rows of a trail where they are. -/
theorem Noted.extends_ (noted : place.Noted engine execution state) :
    Trail.Extends (place.part.get state).trailRows
      (place.part.get ((place.record execution).perform state).2).trailRows := by
  rcases noted.trail with ⟨_, rows, row, stored, _, trail⟩ | ⟨_, trail⟩
  · exact ⟨[row], by rw [trail, stored]; rfl⟩
  · exact .of_eq trail

/-- So does recording many executions, whatever others do meanwhile. -/
theorem extends_of_recordSteps (sound : place.IsSound engine) (ready : place.IsReady engine state)
    (runs : Script.Runs (Part.whole S)
      (Crew.Meanwhile (place.IsReady engine) (place.Unmoved engine id view))
      (Cycle.recordSteps (place.desk engine) executions) state moves (.ok missed) after) :
    Trail.Extends (place.part.get state).trailRows (place.part.get after).trailRows := by
  induction executions generalizing state moves missed with
  | nil => exact (Unmoved.of_waits (Script.Runs.of_done runs).2 ready).2.still.trail
  | cons execution rest inductionHypothesis =>
      rcases of_runs_recordSteps sound ready runs with
        ⟨between, next, _, _, here, kept, there, still, goesOn, _⟩
      exact ((kept.still.trail.trans (sound.noted here execution).extends_).trans
        still.still.trail).trans (inductionHypothesis there goesOn)

/-- Among rows with other ids, an execution that reaches the trail is accepted if there is a table
and it fits into a row. -/
theorem isOk_record_of_does (ready : place.IsReady engine state)
    (does : place.part.Does (Engine.trail.record execution) (place.record execution) state)
    (apart : forall row, row ∈ (place.part.get state).trailRows.getD [] ->
      row.recordId ≠ .text execution.recordId) :
    ((place.record execution).perform state).1.isOk =
      ((place.part.get state).trailRows.isSome && (ExecutionRow.ofExecution execution).isOk) := by
  rw [does.1]
  refine Engine.isOk_record ready.calm fun rows row stored written => ?_
  refine ExecutionRow.any_sameId_of_forall_ne (ExecutionRow.ids_of_ofExecution written).1
    fun other inside => apart other ?_
  rw [stored]
  exact inside

/-- Rows about the ticket of some executions that are still to be recorded have other ids, and so
have all rows while these are recorded. -/
theorem Unused.apart (unused : place.Unused id (execution :: executions) state after)
    {between : S} (rows : Engine.rowsOn (place.part.get between) id =
      Engine.rowsOn (place.part.get state) id)
    (extends_ : Trail.Extends (place.part.get between).trailRows (place.part.get after).trailRows)
    (row : ExecutionRow) (inside : row ∈ (place.part.get between).trailRows.getD []) :
    row.recordId ≠ .text execution.recordId := by
  cases about : row.ticketId.isText id with
  | true =>
      refine unused.earlier execution List.mem_cons_self row ?_
      rw [← rows]
      exact List.mem_filter.mpr ⟨inside, about⟩
  | false => exact unused.others execution List.mem_cons_self row (extends_.subset inside) about

/-- What is left to record stays unused when the first execution was recorded, or was not. -/
theorem Unused.tail (unused : place.Unused id (execution :: executions) state after) {next : S}
    (rows : Engine.rowsOn (place.part.get next) id = Engine.rowsOn (place.part.get state) id ∨
      Exists fun row => ExecutionRow.ofExecution execution = .ok row ∧
        Engine.rowsOn (place.part.get next) id =
          Engine.rowsOn (place.part.get state) id ++ [row]) :
    place.Unused id executions next after := by
  have once := List.nodup_cons.mp unused.once
  refine ⟨once.2, fun later member row inside => ?_,
    fun later member => unused.others later (List.mem_cons_of_mem _ member)⟩
  have earlier := unused.earlier later (List.mem_cons_of_mem _ member)
  rcases rows with same | ⟨new, written, grew⟩
  · rw [same] at inside
    exact earlier row inside
  · rw [grew] at inside
    rcases List.mem_append.mp inside with old | last
    · exact earlier row old
    · cases List.mem_singleton.mp last
      rw [(ExecutionRow.ids_of_ofExecution written).1]
      intro same
      exact once.1 (Database.Cell.text.inj same ▸ List.mem_map_of_mem member)

variable (sound : place.IsSound engine) (sound_ : other.IsSound engine)
  (meets : Meets place other engine id view sight) (notes : NotesAlike place other id view sight)

include sound sound_ notes

/-- Among rows with other ids, twin executions are both recorded or both missed. -/
theorem Together.record (together : Together place other engine id view sight state elsewhere)
    (alike : Execution.anonymous execution = Execution.anonymous twin)
    (about : execution.ticketId = id)
    (table : (place.part.get state).trailRows.isSome = (other.part.get elsewhere).trailRows.isSome)
    (apart : forall row, row ∈ (place.part.get state).trailRows.getD [] ->
      row.recordId ≠ .text execution.recordId)
    (apart_ : forall row, row ∈ (other.part.get elsewhere).trailRows.getD [] ->
      row.recordId ≠ .text twin.recordId) :
    ((place.record execution).perform state).1.isOk =
        ((other.record twin).perform elsewhere).1.isOk ∧
      ((Exists fun row => Exists fun row_ => ExecutionRow.ofExecution execution = .ok row ∧
          ExecutionRow.ofExecution twin = .ok row_ ∧ row.anonymous = row_.anonymous ∧
          Engine.rowsOn (place.part.get ((place.record execution).perform state).2) id =
            Engine.rowsOn (place.part.get state) id ++ [row] ∧
          Engine.rowsOn (other.part.get ((other.record twin).perform elsewhere).2) id =
            Engine.rowsOn (other.part.get elsewhere) id ++ [row_]) ∨
        Engine.rowsOn (place.part.get ((place.record execution).perform state).2) id =
            Engine.rowsOn (place.part.get state) id ∧
          Engine.rowsOn (other.part.get ((other.record twin).perform elsewhere).2) id =
            Engine.rowsOn (other.part.get elsewhere) id) := by
  have about_ : twin.ticketId = id := (congrArg Execution.ticketId alike).symm.trans about
  have fits := ExecutionRow.anonymous_ofExecution alike
  have accepted : ((place.record execution).perform state).1.isOk =
      ((other.record twin).perform elsewhere).1.isOk := by
    rcases notes execution twin alike about state elsewhere together.view with
      ⟨does, does_⟩ | ⟨refused, refused_⟩
    · have fit : (ExecutionRow.ofExecution execution).isOk =
          (ExecutionRow.ofExecution twin).isOk := by
        cases written : ExecutionRow.ofExecution execution <;>
          cases written_ : ExecutionRow.ofExecution twin <;>
            rw [written, written_] at fits <;> first | rfl | cases fits
      rw [isOk_record_of_does together.ready does apart,
        isOk_record_of_does together.ready_ does_ apart_, table, fit]
    · rw [refused, refused_]
  refine ⟨accepted, ?_⟩
  have rows := (sound.noted together.ready execution).rows
  have rows_ := (sound_.noted together.ready_ twin).rows
  rw [about] at rows
  rw [about_] at rows_
  rcases rows with ⟨fine, row, written, grew⟩ | ⟨⟨_, refused, _⟩, stayed⟩
  · rcases rows_ with ⟨_, row_, written_, grew_⟩ | ⟨⟨_, refused_, _⟩, _⟩
    · rw [written, written_] at fits
      exact .inl ⟨row, row_, written, written_, Except.ok.inj fits, grew, grew_⟩
    · rw [fine, refused_] at accepted
      cases accepted
  · rcases rows_ with ⟨fine_, _⟩ | ⟨_, stayed_⟩
    · rw [refused, fine_] at accepted
      cases accepted
    · exact .inr ⟨stayed, stayed_⟩

include meets

/-- Executions that are the same but for their ids are recorded in two shifts, or missed in both. -/
theorem rows_of_recordSteps_alike
    (same : executions.map Execution.anonymous = twins.map Execution.anonymous)
    (about : forall execution, execution ∈ executions -> execution.ticketId = id)
    (together : Together place other engine id view sight state elsewhere)
    (table : (place.part.get state).trailRows.isSome = (other.part.get elsewhere).trailRows.isSome)
    (unused : place.Unused id executions state after)
    (unused_ : other.Unused id twins elsewhere final)
    (runs : Script.Runs (Part.whole S)
      (Crew.Meanwhile (place.IsReady engine) (place.Unmoved engine id view))
      (Cycle.recordSteps (place.desk engine) executions) state moves (.ok missed) after)
    (runs_ : Script.Runs (Part.whole R)
      (Crew.Meanwhile (other.IsReady engine) (other.Unmoved engine id sight))
      (Cycle.recordSteps (other.desk engine) twins) elsewhere turns (.ok missed_) final) :
    missed = missed_ ∧ Trail.GrowAlike (Engine.rowsOn (place.part.get state) id)
      (Engine.rowsOn (place.part.get after) id) (Engine.rowsOn (other.part.get elsewhere) id)
      (Engine.rowsOn (other.part.get final) id) := by
  induction executions generalizing twins state elsewhere moves turns missed missed_ with
  | nil =>
      cases List.map_eq_nil_iff.mp same.symm
      rcases Script.Runs.of_done runs with ⟨none, waits⟩
      rcases Script.Runs.of_done runs_ with ⟨none_, waits_⟩
      cases none
      cases none_
      rw [(Unmoved.of_waits waits together.ready).2.still.rows,
        (Unmoved.of_waits waits_ together.ready_).2.still.rows]
      exact ⟨rfl, .refl _ _⟩
  | cons execution rest inductionHypothesis =>
      rcases twins with _ | ⟨twin, others⟩
      · cases same
      rcases List.cons.inj same with ⟨alike, behind⟩
      have here := about execution List.mem_cons_self
      rcases of_runs_recordSteps sound together.ready runs with
        ⟨between, next, _, count, ready, kept, there, still, goesOn, rfl⟩
      rcases of_runs_recordSteps sound_ together.ready_ runs_ with
        ⟨between_, next_, _, count_, ready_, kept_, there_, still_, goesOn_, rfl⟩
      have noted := sound.noted ready execution
      have noted_ := sound_.noted ready_ twin
      have grows := noted.extends_.trans still.still.trail
      have grows_ := noted_.extends_.trans still_.still.trail
      have now := (together.hidden ready kept).hidden_ ready_ kept_
      have table : (place.part.get between).trailRows.isSome =
          (other.part.get between_).trailRows.isSome := by
        rw [kept.still.trail.isSome_eq, kept_.still.trail.isSome_eq, table]
      rcases now.record sound sound_ notes alike here table
        (unused.apart kept.still.rows
          (grows.trans (extends_of_recordSteps sound there goesOn)))
        (unused_.apart kept_.still.rows
          (grows_.trans (extends_of_recordSteps sound_ there_ goesOn_))) with ⟨accepted, rows⟩
      have later := ((now.noted noted noted_ (meets.record execution twin alike here between
        between_ now.view)).hidden there still).hidden_ there_ still_
      have goOn (left : place.Unused id rest next after)
          (left_ : other.Unused id others next_ final) :=
        inductionHypothesis behind (fun other member => about other (List.mem_cons_of_mem _ member))
          later (by rw [grows.isSome_eq, grows_.isSome_eq, table]) left left_ goesOn goesOn_
      rw [← still.still.rows, ← still_.still.rows, kept.still.rows, kept_.still.rows] at rows
      rw [accepted]
      rcases rows with ⟨row, row_, written, written_, equal, grew, grew_⟩ | ⟨stayed, stayed_⟩
      · rcases goOn (unused.tail (.inr ⟨row, written, grew⟩))
          (unused_.tail (.inr ⟨row_, written_, grew_⟩)) with ⟨rfl, all⟩
        rw [grew, grew_] at all
        exact ⟨rfl, .cons equal all⟩
      · rcases goOn (unused.tail (.inl stayed)) (unused_.tail (.inl stayed_)) with ⟨rfl, all⟩
        rw [stayed, stayed_] at all
        exact ⟨rfl, all⟩

end Notes

/-! ## What is noted about one ticket -/

section Shifts

variable (sound : place.IsSound engine) (sound_ : other.IsSound engine)
  (ready : place.IsReady engine turn.state) (ready_ : other.IsReady engine turn_.state)
  (begins : BeginAlike place other engine id view sight turn.state turn_.state)
  (notes : NotesAlike place other id view sight)
  (trails : TrailsAlike place other turn.state turn_.state)
  (shift : place.ShiftAt engine turn workers) (shift_ : other.ShiftAt engine turn_ workers_)

include sound sound_ ready ready_ begins notes trails

/-- A job that was done in two shifts left the same rows behind but for their ids. -/
theorem rows_done_alike
    (together : Together place other engine id view sight shift.prepared.world
      shift_.prepared.world)
    {job : Job} {done twin : Done} (about : job.ticket.id = id)
    (here : (job, done) ∈ shift.crew.done) (there : (job, twin) ∈ shift_.crew.done) :
    Trail.GrowAlike (Engine.rowsOn (place.part.get turn.state) id)
      (Engine.rowsOn (place.part.get shift.last.world) id)
      (Engine.rowsOn (other.part.get turn_.state) id)
      (Engine.rowsOn (other.part.get shift_.last.world) id) := by
  rcases (follows shift sound ready begins.spares).done job done here about with ⟨_, runs⟩
  rcases (follows shift_ sound_ ready_ begins.spares_).done job twin there about with ⟨_, runs_⟩
  rcases of_runs_toDo runs with ⟨_, _, between, made, recorded⟩
  rcases of_runs_toDo runs_ with ⟨_, _, between_, made_, recorded_⟩
  have alike : Script.Alike (Together place other engine id view sight)
      (Script.Alike.Answers (Execution.AreTwins id))
      ((place.attemptSteps (turn.startedAt (place.desk engine)).instant
        (turn.cycleId (place.desk engine)) job).bind (place.executionSteps engine
          (turn.startedAt (place.desk engine)).instant (turn.cycleId (place.desk engine)) job))
      ((other.attemptSteps (turn_.startedAt (other.desk engine)).instant
        (turn_.cycleId (other.desk engine)) job).bind (other.executionSteps engine
          (turn_.startedAt (other.desk engine)).instant (turn_.cycleId (other.desk engine)) job)) := by
    rw [← instant_eq sound sound_ ready ready_ begins]
    exact executionSteps_alike sound sound_ begins.meets begins.spares begins.spares_ _ _ _ about
  rcases alike.agree (fun _ _ _ moved is => is.hidden moved.1 moved.2)
    (fun _ _ _ moved is => is.hidden_ moved.1 moved.2) together made made_ with
    ⟨⟨_, _, one, two, twins⟩, now⟩
  cases one
  cases two
  subst about
  -- Up to the executions nothing is noted about the ticket, and after them nothing either.
  have kept := (rows_of_executionSteps sound together.ready made).2.1
  have kept_ := (rows_of_executionSteps sound_ together.ready_ made_).2.1
  rcases shift_trail sound ready shift with ⟨first, last⟩
  rcases shift_trail sound_ ready_ shift_ with ⟨first_, last_⟩
  have rows := kept.rows.trans (Engine.rowsOn_of_trail first _)
  have rows_ := kept_.rows.trans (Engine.rowsOn_of_trail first_ _)
  have table : (place.part.get between).trailRows.isSome =
      (other.part.get between_).trailRows.isSome := by
    rw [kept.trail.isSome_eq, kept_.trail.isSome_eq, first, first_, trails.table]
  have all := (rows_of_recordSteps_alike sound sound_ begins.meets notes twins.same twins.about now
    table ((unused sound ready trails.countsUp shift trails.fresh here).congr rows last.symm)
    ((unused sound_ ready_ trails.countsUp_ shift_ trails.fresh_ there).congr rows_ last_.symm)
    recorded recorded_).2
  rw [rows, rows_, ← Engine.rowsOn_of_trail last, ← Engine.rowsOn_of_trail last_] at all
  exact all

/-- What is noted about a ticket that two shifts take on is the same but for ids. -/
theorem rows_alike (rules : shift.rules = shift_.rules)
    (taken : Exists fun ticket => ticket ∈ Cycle.underCap turn.pace.cap shift.listed ∧
      ticket.id = id)
    (taken_ : Exists fun ticket => ticket ∈ Cycle.underCap turn_.pace.cap shift_.listed ∧
      ticket.id = id)
    (finished : shift.crew.IsFinished) (finished_ : shift_.crew.IsFinished)
    (undeferred : shift.crew.left = []) (undeferred_ : shift_.crew.left = []) :
    Trail.GrowAlike (Engine.rowsOn (place.part.get turn.state) id)
      (Engine.rowsOn (place.part.get shift.last.world) id)
      (Engine.rowsOn (other.part.get turn_.state) id)
      (Engine.rowsOn (other.part.get shift_.last.world) id) := by
  rcases jobs_alike sound sound_ ready ready_ begins shift shift_ rules taken taken_ with
    ⟨looks, jobs⟩
  by_cases some : Exists fun job => job ∈ shift.jobs ∧ job.ticket.id = id
  · rcases some with ⟨job, inside, about⟩
    rcases List.mem_map.mp ((all_done shift finished undeferred).mem_iff.mpr inside) with
      ⟨⟨_, done⟩, here, rfl⟩
    rcases (ticket_together sound sound_ ready ready_ begins shift shift_ rules taken taken_
      finished finished_ undeferred undeferred_).2 _ done here about with ⟨twin, there, _⟩
    exact rows_done_alike sound sound_ ready ready_ begins notes trails shift shift_
      (prepared_together sound sound_ ready ready_ begins shift shift_ looks) about here there
  · -- Where no job is about the ticket, nothing is noted about it.
    have idle : forall job, job ∈ shift.jobs -> job.ticket.id ≠ id := fun job inside about =>
      some ⟨job, inside, about⟩
    have idle_ : forall job, job ∈ shift_.jobs -> job.ticket.id ≠ id := by
      intro job inside about
      have known : job ∈ shift_.jobs.filter (Job.isAbout id) :=
        List.mem_filter.mpr ⟨inside, beq_iff_eq.mpr about⟩
      rw [← jobs] at known
      exact some ⟨job, (List.mem_filter.mp known).1, about⟩
    rw [(shift_still sound ready shift idle).rows, (shift_still sound_ ready_ shift_ idle_).rows]
    exact .refl _ _

end Shifts

/--
What becomes of a ticket in a cycle is up to nothing but this ticket.

Two shifts may go on at different workplaces and in different worlds, with other tickets beside this
one, in any order, and whatever goes wrong about the others.  If the ticket is the same when they
begin, both take it on by the same rules at the same time, and what is done about it goes on alike,
then it ends up the same, and what is noted about it is the same but for ids.

Where that holds of all tickets, the shifts come to the same as a whole, so none of it depends on
the order in which the jobs are done.
-/
theorem stay_apart {agreed : String -> Prop} {view : String -> S -> V} {sight : String -> R -> V}
    (sound : place.IsSound engine) (sound_ : other.IsSound engine)
    (ready : place.IsReady engine turn.state) (ready_ : other.IsReady engine turn_.state)
    (begins : forall id, agreed id ->
      BeginAlike place other engine id (view id) (sight id) turn.state turn_.state)
    (notes : forall id, agreed id -> NotesAlike place other id (view id) (sight id))
    (trails : TrailsAlike place other turn.state turn_.state)
    (shift : place.ShiftAt engine turn workers) (shift_ : other.ShiftAt engine turn_ workers_)
    (rules : shift.rules = shift_.rules)
    (finished : shift.crew.IsFinished) (finished_ : shift_.crew.IsFinished)
    (undeferred : shift.crew.left = []) (undeferred_ : shift_.crew.left = []) :
    (forall id, agreed id ->
      (Exists fun ticket => ticket ∈ Cycle.underCap turn.pace.cap shift.listed ∧
        ticket.id = id) ->
      (Exists fun ticket => ticket ∈ Cycle.underCap turn_.pace.cap shift_.listed ∧
        ticket.id = id) ->
      engine.slot (place.part.get shift.last.world) id =
          engine.slot (other.part.get shift_.last.world) id ∧
        Trail.GrowAlike (Engine.rowsOn (place.part.get turn.state) id)
          (Engine.rowsOn (place.part.get shift.last.world) id)
          (Engine.rowsOn (other.part.get turn_.state) id)
          (Engine.rowsOn (other.part.get shift_.last.world) id)) ∧
    ((forall id, agreed id) ->
      (place.part.get turn.state).stock = (other.part.get turn_.state).stock ->
      (forall ticket, ticket ∈ Cycle.underCap turn.pace.cap shift.listed <->
        ticket ∈ Cycle.underCap turn_.pace.cap shift_.listed) ->
      (place.part.get shift.last.world).stock = (other.part.get shift_.last.world).stock ∧
        shift.last.report.outcomes = shift_.last.report.outcomes ∧
        shift.last.report.executedRuleIds = shift_.last.report.executedRuleIds) := by
  refine ⟨fun id agrees taken taken_ => ⟨?_, ?_⟩, fun agrees same taken => ?_⟩
  · exact Together.concluded sound sound_ (ticket_together sound sound_ ready ready_
      (begins id agrees) shift shift_ rules taken taken_ finished finished_ undeferred
        undeferred_).1
  · exact rows_alike sound sound_ ready ready_ (begins id agrees) (notes id agrees) trails shift
      shift_ rules taken taken_ finished finished_ undeferred undeferred_
  · have alike (id : String) := begins id (agrees id)
    have executions := executions_perm sound sound_ ready ready_ alike shift shift_ rules taken
      finished finished_ undeferred undeferred_
    refine ⟨stock_alike sound sound_ ready ready_ alike shift shift_ rules taken finished finished_
      undeferred undeferred_ same, ?_, ?_⟩
    · rcases shift.stages with ⟨_, _, _, _, _, _, _, reported, _⟩
      rcases shift_.stages with ⟨_, _, _, _, _, _, _, reported_, _⟩
      rw [shift.report_eq, shift_.report_eq]
      refine Cycle.outcomes_of_perm executions (fun outcome => ?_) ?_
      · rw [reported]
        exact Tally.knows_zero outcome
      · rw [reported, reported_]
        rfl
    · rw [shift.report_eq, shift_.report_eq]
      exact Cycle.executedIds_of_perm executions

end Workplace

namespace Sample

/-- A ticket that is with a technician as well. -/
def second : Ticket := { ticket with id := "2" }

/-- A ticket that is not. -/
def third : Ticket := { ticket with id := "3", subject := "Monitor", status := some "Open" }

/-- The world with the third rule, the ticket, and another one. -/
def couple (beside : Ticket) : World := .beginning noon [later] [ticket, beside]

/-- A ticket that can stand beside the small engine's own. -/
structure CanJoin (beside : Ticket) : Prop where
  different : ticket.id ≠ beside.id
  utc : beside.updatedAt.offset = some 0
  isOpen : Tickets.Shelf.isOpen Vocabulary.standard.closedStatuses beside = true
  behind : (Tickets.Shelf.order ticket beside).isLE = true

theorem second_canJoin : CanJoin second := ⟨by decide, rfl, by decide, by decide +kernel⟩

theorem third_canJoin : CanJoin third := ⟨by decide, rfl, by decide, by decide +kernel⟩

theorem isReady_couple {beside : Ticket} (joins : CanJoin beside) :
    engine.IsReady (couple beside) := by
  refine Engine.isReady_beginning rfl rfl [later] ⟨?_, fun other member => ?_⟩
  · exact List.nodup_cons.mpr ⟨fun inside => joins.different (List.mem_singleton.mp inside),
      List.nodup_singleton _⟩
  · rcases List.mem_cons.mp member with rfl | behind
    · rfl
    · cases List.mem_singleton.mp behind
      exact joins.utc

/-- A turn in this world reads the rule and both tickets. -/
theorem readings_couple {beside : Ticket} (joins : CanJoin beside) :
    ((turn (couple beside)).readings engine.desk).1 = .ok ([later], [ticket, beside]) := by
  have some_ : [later].Sublist [early, late, later] :=
    .cons _ (.cons _ (.cons_cons _ (List.nil_sublist _)))
  have listed : Tickets.Shelf.listOpen Vocabulary.standard.closedStatuses none [ticket, beside] =
      [ticket, beside] := by
    have first : Tickets.Shelf.isOpen Vocabulary.standard.closedStatuses ticket = true := by decide
    have all : [ticket, beside].filter (Tickets.Shelf.isOpen Vocabulary.standard.closedStatuses) =
        [ticket, beside] := by
      rw [List.filter_cons_of_pos first, List.filter_cons_of_pos joins.isOpen, List.filter_nil]
    simp only [Tickets.Shelf.listOpen, all]
    exact List.mergeSort_of_pairwise (List.pairwise_pair.mpr joins.behind)
  have read := @Engine.readings_in_memory engine rfl (turn (couple beside))
    (isReady_couple joins).calm [later] (active_world some_)
  exact read.trans (congrArg (fun tickets => Except.ok ([later], tickets)) listed)

/-- A place where no message arrives, and no ticket can be sorted out but one. -/
def torn : Workplace World :=
  let own := Workplace.own engine
  { own with
    dispatch := some fun _ _ => Act.ofResult (.error (refusal .dispatch))
    sortOut := fun rules found now =>
      if found.id = ticket.id then own.sortOut rules found now
      else Act.ofResult (.error (refusal .evaluation)) }

theorem torn_isSound : torn.IsSound engine := by
  refine { Workplace.own_isSound engine with
    dispatch := fun dispatch known target text => ?_
    sortOut := fun rules found now => ?_ }
  · cases known
    exact fun state => Engine.Unseen.refl _ state
  · show Act.Along _ (if _ then _ else _)
    split
    · exact (Workplace.own_isSound engine).sortOut rules found now
    · exact fun state => Engine.Unseen.refl _ state

theorem torn_countsUp : torn.CountsUp := by
  refine { Workplace.own_countsUp engine with
    dispatch := fun dispatch known target text => ?_
    sortOut := fun rules found now => ?_ }
  · cases known
    exact fun _ => Nat.le_refl _
  · show Act.Along _ (if _ then _ else _)
    split
    · exact (Workplace.own_countsUp engine).sortOut rules found now
    · exact fun _ => Nat.le_refl _

/-- The own desk and the torn one are alike as far as the ticket is concerned. -/
theorem begins_torn (beside other : Ticket) :
    (Workplace.own engine).BeginAlike torn engine ticket.id (fun _ => ()) (fun _ => ())
      (couple beside) (couple other) where
  spares := Workplace.spares_nothing _ _
  spares_ := Workplace.spares_nothing _ _
  meets := by
    refine ⟨fun rules found now same _ _ _ => ⟨?_, rfl⟩, fun _ _ _ _ _ _ => ⟨rfl, rfl⟩,
      fun _ _ _ => ⟨rfl, rfl⟩, fun _ _ _ => ⟨rfl, .inl ⟨⟨rfl, rfl⟩, rfl, rfl⟩⟩,
      fun _ _ _ _ _ => ⟨rfl, .inl ⟨⟨rfl, rfl⟩, rfl, rfl⟩⟩, fun _ _ _ _ _ _ _ => rfl⟩
    show _ = (Act.perform (if _ then _ else _) _).1
    rw [if_pos same]
    rfl
  clock := rfl
  slot := rfl
  view := rfl

theorem notes_torn (id : String) :
    (Workplace.own engine).NotesAlike torn id (fun _ => ()) (fun _ => ()) :=
  fun _ _ _ _ _ _ _ => .inl ⟨⟨rfl, rfl⟩, rfl, rfl⟩

theorem drawsFresh_couple (beside : Ticket) : (couple beside).DrawsFresh := by
  intro row inside
  have none_ : (couple beside).trailRows.getD [] = [] := rfl
  rw [none_] at inside
  cases inside

theorem trails_torn (beside other : Ticket) :
    (Workplace.own engine).TrailsAlike torn (couple beside) (couple other) :=
  ⟨rfl, Workplace.own_countsUp engine, torn_countsUp, drawsFresh_couple beside,
    drawsFresh_couple other⟩

end Sample

/-- Two workers at the own desk and one at the torn desk come to the same about the ticket, whatever
else they have to do; and a single worker at the own desk comes to the same as two. -/
theorem Workplace.stay_apart_of_sample :
    Exists fun shift : (own Sample.engine).ShiftAt Sample.engine
        (Sample.turn (Sample.couple Sample.second)) 2 =>
      (Exists fun shift_ : Sample.torn.ShiftAt Sample.engine
          (Sample.turn (Sample.couple Sample.third)) 1 =>
        shift.crew.IsFinished ∧ shift_.crew.IsFinished ∧
          Sample.engine.slot shift.last.world Sample.ticket.id =
            Sample.engine.slot shift_.last.world Sample.ticket.id ∧
          (Engine.rowsOn shift.last.world Sample.ticket.id).map ExecutionRow.anonymous =
            (Engine.rowsOn shift_.last.world Sample.ticket.id).map ExecutionRow.anonymous) ∧
      Exists fun alone : (own Sample.engine).ShiftAt Sample.engine
          (Sample.turn (Sample.couple Sample.second)) 1 =>
        alone.crew.IsFinished ∧ shift.last.world.stock = alone.last.world.stock ∧
          shift.last.report.outcomes = alone.last.report.outcomes ∧
          shift.last.report.executedRuleIds = alone.last.report.executedRuleIds := by
  have reads : (Sample.turn (Sample.couple Sample.second)).readings
      ((own Sample.engine).desk Sample.engine) =
        (.ok ([Sample.later], [Sample.ticket, Sample.second]), _) :=
    Prod.ext (Sample.readings_couple Sample.second_canJoin) rfl
  have reads_ : (Sample.turn (Sample.couple Sample.third)).readings
      (Sample.torn.desk Sample.engine) =
        (.ok ([Sample.later], [Sample.ticket, Sample.third]), _) :=
    Prod.ext (Sample.readings_couple Sample.third_canJoin) rfl
  have ready : (own Sample.engine).IsReady Sample.engine
      (Sample.turn (Sample.couple Sample.second)).state :=
    Sample.isReady_couple Sample.second_canJoin
  have ready_ : Sample.torn.IsReady Sample.engine
      (Sample.turn (Sample.couple Sample.third)).state :=
    Sample.isReady_couple Sample.third_canJoin
  have sound := own_isSound Sample.engine
  rcases exists_shift sound ready 2 reads with ⟨shift, rules, listed, finished, left⟩
  rcases exists_shift Sample.torn_isSound ready_ 1 reads_ with
    ⟨shift_, rules_, listed_, finished_, left_⟩
  rcases exists_shift sound ready 1 reads with ⟨alone, ruled, all, ended, none_⟩
  refine ⟨shift, ⟨shift_, finished, finished_, ?_⟩, alone, ended, ?_⟩
  · have apart := stay_apart sound Sample.torn_isSound ready ready_
      (fun id (same : id = Sample.ticket.id) => same ▸ Sample.begins_torn _ _)
      (fun id _ => Sample.notes_torn id) (Sample.trails_torn _ _) shift shift_
      (rules.trans rules_.symm) finished finished_ (left rfl) (left_ rfl)
    have taken {beside : Ticket} : Exists fun ticket =>
        ticket ∈ Cycle.underCap 5000 [Sample.ticket, beside] ∧ ticket.id = Sample.ticket.id :=
      ⟨Sample.ticket, List.mem_cons_self, rfl⟩
    rcases apart.1 Sample.ticket.id rfl (listed ▸ taken) (listed_ ▸ taken) with
      ⟨slot, _, _, rows, rows_, alike⟩
    have rows : Engine.rowsOn shift.last.world Sample.ticket.id = _ := rows
    have rows_ : Engine.rowsOn shift_.last.world Sample.ticket.id = _ := rows_
    rw [rows, rows_]
    exact ⟨slot, alike⟩
  · have apart := stay_apart sound sound ready ready
      (fun id (_ : True) => own_beginAlike Sample.engine _ _ _ _ id _)
      (fun _ _ _ _ _ _ _ _ _ => .inl ⟨⟨rfl, rfl⟩, rfl, rfl⟩)
      ⟨rfl, own_countsUp _, own_countsUp _, Sample.drawsFresh_couple _,
        Sample.drawsFresh_couple _⟩
      shift alone (rules.trans ruled.symm) finished ended (left rfl) (none_ rfl)
    exact apart.2 (fun _ => trivial) rfl fun ticket => by rw [listed, all]

end Triage
