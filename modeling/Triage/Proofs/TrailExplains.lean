import Triage.Proofs.Beginning
import Triage.Proofs.Explaining

namespace Triage

/-!
# The trail explains the tickets

Over any run of an engine the trail tells what became of the tickets: each aspect is what the most
recent execution that covers it has set it to, and what it was in the beginning if there is none.

A run goes through cycles at any pace and with any interruption, on a store whose reads and writes
may fail or be refused.  Between the cycles rules are created, added, edited, switched and taken
away, and the clock is set.  The run is one in which every execution reaches the trail and nobody
but the engine writes tickets.
-/

/-- What somebody does to the rules of an engine. -/
inductive RuleChange where
  | create (draft : Rules.Catalog.Draft)
  | add (rule : Rule)
  | edit (id : String) (edit : Rules.Catalog.Edit)
  | switch (id : String) (isActive : Bool)
  | delete (id : String)

namespace Engine

/-- Changes the rules of an engine. -/
def changeRules (engine : Engine) (change : RuleChange) : Act World Unit :=
  match change with
  | .create draft => do
      let _ <- engine.createRule draft
  | .add rule => do
      let _ <- World.databasePart.perform (Rules.Catalog.add engine.vocabulary rule)
  | .edit id edit => do
      let now <- Act.look World.now
      let _ <- World.databasePart.perform (Rules.Catalog.update engine.vocabulary now id edit)
  | .switch id isActive => do
      let _ <- World.databasePart.perform (Rules.Catalog.setActive id isActive)
  | .delete id => do
      let _ <- World.databasePart.perform (Rules.Catalog.delete id)

variable {S : Type} {engine : Engine} {part : Part S World} {store : Tickets.Store S}

/-- One step of a run. -/
inductive Step (engine : Engine) (part : Part S World) (store : Tickets.Store S) :
    S -> S -> Prop
  /-- A cycle whose executions all reach the trail. -/
  | cycle (turn : Cycle.Turn S) :
      (forall report, (turn.outcome (engine.deskIn part store)).1 = .ok report ->
        report.auditFailures = 0) ->
      Step engine part store turn.state (turn.after (engine.deskIn part store))
  /-- A change of the rules, whether or not it succeeds. -/
  | change (change : RuleChange) (state : S) :
      Step engine part store state ((part.perform (engine.changeRules change)).perform state).2
  /-- The clock is set, and what the engine does not know of may change as well. -/
  | wait {before after : S} {now : Stamp} : now.offset = some 0 ->
      part.get after = { part.get before with clock := now } -> Step engine part store before after

/-- A run of any number of steps. -/
inductive Run (engine : Engine) (part : Part S World) (store : Tickets.Store S) :
    S -> S -> Prop
  | nil (state : S) : Run engine part store state state
  | snoc {first between last : S} : Run engine part store first between ->
      Step engine part store between last -> Run engine part store first last

/-- What a change of the rules does not touch. -/
def besidesRules (world : World) : Stamp × (Tickets.Shelf × Option (List Database.TicketRow)) ×
    Option (List Database.ExecutionRow) := (world.clock, world.stock, world.trailRows)

/-- Changes of the rules leave the clock, the tickets and the trail alone. -/
theorem changeRules_spares (change : RuleChange) :
    World.Spares besidesRules (engine.changeRules change) := by
  have inside {A : Type} {act : Act Database A}
      (leaves : forall world : World, act.Along (Database.Pool.Leaves fun tables =>
        (world.clock, (world.shelf, tables.tickets), tables.executions))) :
      World.Spares besidesRules (World.databasePart.perform act) :=
    World.Spares.database (fun world tables =>
      (world.clock, (world.shelf, tables.tickets), tables.executions)) (fun _ _ => rfl) leaves
  have drawn : World.Spares besidesRules (Act.draw World.drawRuleId) :=
    fun _ calm => ⟨calm, rfl⟩
  cases change with
  | create draft =>
      refine .bind (.bind (.look _) fun now => ?_) fun _ => .pure ()
      have made (freshId : String) : World.Spares besidesRules (World.databasePart.perform
          (Rules.Catalog.create engine.vocabulary now freshId draft)) :=
        inside fun _ => Rules.Catalog.create_leaves (fun _ _ => rfl) _ now freshId draft
      cases draft.id.isTruthy with
      | true => exact .bind (.pure "") made
      | false => exact .bind drawn made
  | add rule =>
      exact .bind (inside fun _ => Rules.Catalog.add_leaves (fun _ _ => rfl) _ rule)
        fun _ => .pure ()
  | edit id edit =>
      refine .bind (.look _) fun now => .bind ?_ fun _ => .pure ()
      exact inside fun _ => Rules.Catalog.update_leaves (fun _ _ => rfl) _ now id edit
  | switch id isActive =>
      exact .bind (inside fun _ => Rules.Catalog.setActive_leaves (fun _ _ => rfl) id isActive)
        fun _ => .pure ()
  | delete id =>
      exact .bind (inside fun _ => Rules.Catalog.delete_leaves (fun _ _ => rfl) id)
        fun _ => .pure ()

/-- Each step keeps the world ready, and the trail grows by what explains it. -/
theorem Step.explains (hampers : engine.Hampers part store) (lawful : part.IsLawful)
    {before after : S} (step : engine.Step part store before after)
    (ready : engine.IsReady (part.get before)) :
    engine.IsReady (part.get after) ∧ Exists fun appended =>
      Trail.Grew (part.get before).trailRows (part.get after).trailRows appended ∧
      engine.Explains appended (part.get before) (part.get after) := by
  cases step with
  | cycle turn recorded => exact hampers.explains lawful turn ready recorded
  | change change =>
      have seen : part.get ((part.perform (engine.changeRules change)).perform before).2 =
          ((engine.changeRules change).perform (part.get before)).2 := lawful.get_set _ _
      rw [seen]
      rcases @changeRules_spares engine change (part.get before) ready.calm with ⟨calm, same⟩
      have clock := congrArg Prod.fst same
      have stock := congrArg (fun view => view.2.1) same
      have trail := congrArg (fun view => view.2.2) same
      simp only [besidesRules] at clock stock trail
      refine ⟨⟨calm, clock ▸ ready.utc, stock ▸ ready.sound⟩, [], ?_, .of_stock stock⟩
      rw [trail]
      exact Trail.Grew.refl _
  | wait utc same =>
      rw [same]
      exact ⟨⟨ready.calm, utc, ready.sound⟩, [], Trail.Grew.refl _, .of_stock rfl⟩

/--
Over any run the trail grows, and what it grew by explains every ticket: an aspect that is covered
was set by the most recent execution that covers it, every other aspect is as it was in the
beginning, and no ticket comes or goes.
-/
theorem trail_explains (hampers : engine.Hampers part store) (lawful : part.IsLawful)
    {first last : S} (ready : engine.IsReady (part.get first))
    (run : engine.Run part store first last) :
    Exists fun appended =>
      Trail.Grew (part.get first).trailRows (part.get last).trailRows appended ∧
      engine.Explains appended (part.get first) (part.get last) := by
  have all : engine.IsReady (part.get last) ∧ Exists fun appended =>
      Trail.Grew (part.get first).trailRows (part.get last).trailRows appended ∧
      engine.Explains appended (part.get first) (part.get last) := by
    induction run with
    | nil => exact ⟨ready, [], Trail.Grew.refl _, .of_stock rfl⟩
    | snoc _ step inductionHypothesis =>
        rcases inductionHypothesis with ⟨still, earlier, grew, explains⟩
        rcases step.explains hampers lawful still with ⟨again, later, more, further⟩
        exact ⟨again, earlier ++ later, grew.trans more, explains.trans further⟩
  exact all.2

/-- The small engine with the second rule alone, and a store that refuses the first write. -/
def refusing : Drill.Stage World :=
  ⟨Sample.world [Sample.late], [⟨.changeTicket, .answersFalse, none, some 1⟩]⟩

/-- The desk of the small engine, on stages with traps for its store. -/
def refusedDesk : Desk (Drill.Stage World) :=
  Sample.engine.deskIn Drill.world Sample.engine.drilledTickets

/-- The stage after a turn that could not write. -/
def refused : Drill.Stage World := (Sample.turn refusing).after refusedDesk

/-- The stage after another turn, which has written. -/
def overcome : Drill.Stage World := (Sample.turn refused).after refusedDesk

theorem trail_explains_overcome :
    (Exists fun appended =>
      Trail.Grew refusing.world.trailRows overcome.world.trailRows appended ∧
      Sample.engine.Explains appended refusing.world overcome.world) ∧
    refused.world.shelf.map Ticket.priority = [some "Low"] ∧
    overcome.world.shelf.map Ticket.priority = [some "Urgent"] := by
  have first : (((Sample.turn refusing).outcome refusedDesk).1.toOption.map
      Report.auditFailures) = some 0 := by decide +kernel
  have second : (((Sample.turn refused).outcome refusedDesk).1.toOption.map
      Report.auditFailures) = some 0 := by decide +kernel
  have recorded {turn : Cycle.Turn (Drill.Stage World)}
      (none_ : ((turn.outcome refusedDesk).1.toOption.map Report.auditFailures) = some 0) :
      Sample.engine.Step Drill.world Sample.engine.drilledTickets turn.state
        (turn.after refusedDesk) := by
    refine .cycle turn fun report answered => ?_
    have known : (turn.outcome refusedDesk).1 = .ok report := answered
    rw [known] at none_
    exact Option.some.inj none_
  have run : Sample.engine.Run Drill.world Sample.engine.drilledTickets refusing overcome :=
    .snoc (.snoc (.nil _) (recorded first)) (recorded second)
  have ready : Sample.engine.IsReady (Drill.world.get refusing) :=
    Sample.isReady_world [Sample.late]
  exact ⟨trail_explains (drilledTickets_hampers Sample.engine) Drill.world_isLawful ready run,
    by decide +kernel, by decide +kernel⟩

end Engine
end Triage
