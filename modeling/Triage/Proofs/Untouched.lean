import Triage.Proofs.BroughtToEnd

namespace Triage

/-!
# What a job leaves alone

A job changes at most the slot of its own ticket and the rows of the trail about it, whatever its
plan is and whatever becomes of it.  All other slots stay as they are, every ticket stays in its
place, and the trail only grows, by rows about the ticket of the job.

Beside the world, what has been done about a ticket may show in a view of the state, such as what
is still to go wrong about it.  Jobs about other tickets are supposed not to touch such a view.
-/

open Cycle (Job Done)
open Database (ExecutionRow)

namespace Engine

variable {engine : Engine} {id : String} {before between after : World}

/-- Nothing about the ticket of an id has changed. -/
structure Still (engine : Engine) (id : String) (before after : World) : Prop where
  clock : after.clock = before.clock
  slot : engine.slot after id = engine.slot before id
  outline : engine.outline after = engine.outline before
  rows : rowsOn after id = rowsOn before id
  trail : Trail.Extends before.trailRows after.trailRows

namespace Still

theorem refl (engine : Engine) (id : String) (world : World) : engine.Still id world world :=
  ⟨rfl, rfl, rfl, rfl, .refl _⟩

theorem trans (one : engine.Still id before between) (two : engine.Still id between after) :
    engine.Still id before after :=
  ⟨two.clock.trans one.clock, two.slot.trans one.slot, two.outline.trans one.outline,
    two.rows.trans one.rows, one.trail.trans two.trail⟩

theorem of_standing (same : after.standing = before.standing) : engine.Still id before after := by
  rcases same_of_standing same with ⟨clock, stock, _, trail⟩
  exact ⟨clock, slot_of_stock stock id, outline_of_stock stock, rowsOn_of_trail trail id,
    .of_eq trail⟩

end Still

/-- A change of one ticket changes nothing about another. -/
theorem Beside.still {other : String} (beside : engine.Beside other before after)
    (different : id ≠ other) : engine.Still id before after := by
  rcases same_of_aside beside.aside with ⟨clock, _, trail⟩
  exact ⟨clock, beside.slots id different, beside.outline, rowsOn_of_trail trail id, .of_eq trail⟩

end Engine

namespace Workplace

variable {S V A : Type}

/-- The rows about other tickets after an execution was recorded, or was not. -/
theorem Noted.still {place : Workplace S} {engine : Engine} {execution : Execution} {state : S}
    {id : String} (noted : place.Noted engine execution state)
    (different : execution.ticketId ≠ id) : engine.Still id (place.part.get state)
      (place.part.get ((place.record execution).perform state).2) := by
  rcases Engine.same_of_offTrail noted.aside with ⟨clock, stock, _⟩
  have still (rows : Engine.rowsOn (place.part.get ((place.record execution).perform state).2) id =
      Engine.rowsOn (place.part.get state) id)
      (trail : Trail.Extends (place.part.get state).trailRows
        (place.part.get ((place.record execution).perform state).2).trailRows) :
      engine.Still id (place.part.get state)
        (place.part.get ((place.record execution).perform state).2) :=
    ⟨clock, Engine.slot_of_stock stock id, Engine.outline_of_stock stock, rows, trail⟩
  rcases noted.trail with ⟨_, rows, row, stored, written, trail⟩ | ⟨_, trail⟩
  · have other : row.ticketId.isText id = false := by
      rw [(ExecutionRow.ids_of_ofExecution written).2, Database.Cell.isText]
      exact beq_false_of_ne different
    refine still ?_ ⟨[row], by rw [trail, stored]; rfl⟩
    rw [Engine.rowsOn, Engine.rowsOn, trail, stored, Option.getD_some, Option.getD_some,
      List.filter_append, List.filter_cons_of_neg (Bool.not_eq_true _ ▸ other), List.filter_nil,
      List.append_nil]
  · exact still (Engine.rowsOn_of_trail trail id) (.of_eq trail)

/-- What is done about other tickets than that of an id does not show in a view of the state. -/
structure Spares (place : Workplace S) (id : String) (view : S -> V) : Prop where
  set : forall world state, view (place.part.set world state) = view state
  dispatch : forall dispatch, place.dispatch = some dispatch -> forall target text,
    (dispatch target text).Keeps view
  listOpen : (place.store.listOpen none).Keeps view
  markExecuted : forall ids executedAt, (place.markExecuted ids executedAt).Keeps view
  sortOut : forall rules ticket now, ticket.id ≠ id -> (place.sortOut rules ticket now).Keeps view
  resolve : forall ticket matching, ticket.id ≠ id -> (place.resolve ticket matching).Keeps view
  enter : forall other, other ≠ id -> (place.enter other).Keeps view
  find : forall other, other ≠ id -> (place.store.find other).Keeps view
  change : forall other updates expected, other ≠ id ->
    (place.store.change other updates expected).Keeps view
  record : forall execution, execution.ticketId ≠ id -> (place.record execution).Keeps view

/-- A view that shows nothing is spared everywhere. -/
theorem spares_nothing (place : Workplace S) (id : String) : place.Spares id fun _ => () :=
  ⟨fun _ _ => rfl, fun _ _ _ _ _ => rfl, fun _ => rfl, fun _ _ _ => rfl, fun _ _ _ _ _ => rfl,
    fun _ _ _ _ => rfl, fun _ _ _ => rfl, fun _ _ _ => rfl, fun _ _ _ _ _ => rfl,
    fun _ _ _ => rfl⟩

variable {place : Workplace S} {engine : Engine} {id other : String} {view : S -> V}

/-- Nothing about the ticket of an id has changed, and nothing that a view shows. -/
structure Unmoved (place : Workplace S) (engine : Engine) (id : String) (view : S -> V)
    (before after : S) : Prop where
  still : engine.Still id (place.part.get before) (place.part.get after)
  view : view after = view before

theorem Unmoved.refl (state : S) : place.Unmoved engine id view state state :=
  ⟨.refl _ _ _, rfl⟩

theorem Unmoved.trans {first second third : S} (one : place.Unmoved engine id view first second)
    (two : place.Unmoved engine id view second third) :
    place.Unmoved engine id view first third :=
  ⟨one.still.trans two.still, two.view.trans one.view⟩

/-- What leaves everything that stands touches no ticket. -/
theorem unmoved_of_unseen {act : Act S A} (unseen : act.Along (Engine.Unseen place.part))
    (keeps : act.Keeps view) : place.Passes engine (place.Unmoved engine id view) act :=
  passes_of_unseen unseen fun state ready =>
    ⟨.of_standing (unseen state ready.calm).2, keeps state⟩

theorem unmoved_draw (sound : place.IsSound engine)
    (set : forall world state, view (place.part.set world state) = view state) :
    place.Passes engine (place.Unmoved engine id view)
      (Act.draw (Engine.drawFrom place.part World.drawRecordId)) :=
  unmoved_of_unseen sound.draw_unseen fun _ => set _ _

theorem unmoved_failedExecutions (sound : place.IsSound engine)
    (set : forall world state, view (place.part.set world state) = view state)
    (ticketId reason : String) (matchedAt : Instant) (cycleId : String) (rules : List Rule) :
    place.Passes engine (place.Unmoved engine id view)
      (Cycle.failedExecutions (place.desk engine) ticketId reason matchedAt cycleId rules) :=
  passes_failedExecutions Unmoved.refl (fun _ _ _ one two => one.trans two)
    (unmoved_draw sound set) ticketId reason matchedAt cycleId rules

theorem unmoved_dispatch (sound : place.IsSound engine)
    (keeps : forall dispatch, place.dispatch = some dispatch -> forall target text,
      (dispatch target text).Keeps view)
    (dispatch : String -> String -> Act S Unit) (known : place.dispatch = some dispatch)
    (target text : String) :
    place.Passes engine (place.Unmoved engine id view) (dispatch target text) :=
  unmoved_of_unseen (sound.dispatch dispatch known target text) (keeps dispatch known target text)

section Others

variable (sound : place.IsSound engine) (spares : place.Spares id view) (different : other ≠ id)

include sound spares different

/-- A plan for one ticket leaves all others alone. -/
theorem leads_unmoved : place.Leads engine (place.Unmoved engine id view) other where
  reflexive := Unmoved.refl
  transitive _ _ _ one two := one.trans two
  draw := unmoved_draw sound spares.set
  dispatch := unmoved_dispatch sound spares.dispatch
  enter := unmoved_of_unseen (sound.enter other) (spares.enter other different)
  find := unmoved_of_unseen (sound.hampers.find_unseen other) (spares.find other different)
  change updates expected state ready :=
    have beside := sound.change_beside ready other updates expected
    ⟨beside.ready, beside.still different.symm, spares.change other _ _ different state⟩

/-- The job on a ticket is brought to its end, and touches nothing about any other ticket. -/
theorem toDo_keeps (matchedAt : Instant) (cycleId : String) {job : Job}
    (about : job.ticket.id = other) :
    (place.toDo engine matchedAt cycleId job).Keeps (place.IsReady engine)
      (place.Unmoved engine id view) fun result => Exists fun done => result = .ok done := by
  refine Leads.toDo sound (fun execution named state ready => ?_)
    (leads_unmoved sound spares different) matchedAt cycleId about
  have elsewhere : execution.ticketId ≠ id := named ▸ different
  have noted := sound.noted ready execution
  exact ⟨noted.ready, noted.still elsewhere, spares.record execution elsewhere state⟩

end Others

end Workplace
end Triage
