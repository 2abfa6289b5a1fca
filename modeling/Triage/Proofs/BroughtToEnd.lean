import Triage.Proofs.Crew
import Triage.Proofs.JobSteps
import Triage.Proofs.Session
import Triage.Proofs.Steps
import Triage.Proofs.Tickets.Slots
import Triage.Proofs.Trail

namespace Triage

/-!
# Jobs are brought to their end

A workplace is where the jobs of an engine are done: a store for its tickets, somebody who sends
messages, a template for them, and everything else that may work as it should or fail.  An
engine at its own desk is at such a workplace.

At a sound workplace an operation does to the world what the engine does, or leaves alone what
stands in it.  So a job is brought to its end there, whatever its plan is and whatever becomes of
the operations that it needs.

What a job leads to is settled by its operations: where each of them leads along some relation
between states, so does every step of the job.
-/

open Executor (Group Entry)
open Cycle (Job Done)

/-! ## Workplaces -/

/-- A place where the jobs of an engine can be done. -/
structure Workplace (S : Type) where
  part : Part S World
  store : Tickets.Store S
  /-- Sends a message to a target; without it notifications are dropped. -/
  dispatch : Option (String -> String -> Act S Unit)
  template : String
  sortOut : List Rule -> Ticket -> Instant -> Act S Matching
  resolve : Ticket -> Matching -> Act S Plan
  /-- Comes before a plan for the ticket of an id is carried out; its failure is that of the plan. -/
  enter : String -> Act S Unit
  record : Execution -> Act S Unit
  markExecuted : List String -> Instant -> Act S Nat

namespace Workplace

variable {S : Type} (place : Workplace S) (engine : Engine)

/-- What carries out plans at a workplace. -/
def executor : Executor S where
  store := place.store
  dispatch := place.dispatch
  template := place.template
  freshId := Engine.drawFrom place.part World.drawRecordId

/-- The desk of an engine at a workplace. -/
def desk : Desk S :=
  let base := engine.deskIn place.part place.store
  { base with
    rules := { base.rules with markExecuted := place.markExecuted }
    trail := { base.trail with record := place.record }
    sortOut := place.sortOut
    resolve := place.resolve
    carryOut := fun ticketId plan matchedAt cycleId => do
      place.enter ticketId
      place.executor.apply ticketId plan matchedAt cycleId }

/-- The operations of the store, each of which happens at once. -/
def steps : Tickets.Stepwise S where
  find id := .one (place.store.find id)
  change id updates expected := .one (place.store.change id updates expected)

theorem steps_follows : place.steps.Follows place.store :=
  ⟨fun _ _ => Script.perform_one _ _, fun _ _ _ _ => Script.perform_one _ _⟩

/-- The steps of carrying out the plan of a job; the reason is an answer where that fails. -/
def attemptSteps (matchedAt : Instant) (cycleId : String) (job : Cycle.Job) :
    Script S (Except String (List Execution)) :=
  match job.plan with
  | .error reason => .done (.ok (.error reason))
  | .ok plan =>
      ((Script.one (place.enter job.ticket.id)).bind fun _ =>
        place.executor.applySteps place.steps job.ticket.id plan matchedAt
          (some cycleId)).andThen fun result =>
            .done (.ok (result.mapError fun failure => "Ticket unit failed: " ++ failure.report))

/-- The executions of a job after its plan was attempted. -/
def executionSteps (matchedAt : Instant) (cycleId : String) (job : Cycle.Job) :
    Except String (List Execution) -> Script S (List Execution)
  | .ok executions => .done (.ok executions)
  | .error reason => .one (Cycle.failedExecutions (place.desk engine) job.ticket.id reason
      matchedAt cycleId job.firing)

/-- The steps of a job: its plan is carried out, and what became of it is noted. -/
def toDo (matchedAt : Instant) (cycleId : String) (job : Cycle.Job) : Script S Cycle.Done :=
  ((place.attemptSteps matchedAt cycleId job).bind
    (place.executionSteps engine matchedAt cycleId job)).bind fun executions =>
      (Cycle.recordSteps (place.desk engine) executions).bind fun auditFailures =>
        .done (.ok ⟨job.ticket.id, executions, auditFailures⟩)

/-- With nobody else around, the steps of a job are what a cycle does about it. -/
theorem perform_toDo (matchedAt : Instant) (cycleId : String) (job : Cycle.Job) (state : S) :
    (place.toDo engine matchedAt cycleId job).act.perform state =
      (Cycle.execute (place.desk engine) matchedAt cycleId job).perform state := by
  have attempted (state : S) : (place.attemptSteps matchedAt cycleId job).act.perform state =
      (Cycle.attemptPlan (place.desk engine) job matchedAt cycleId).perform state := by
    rw [attemptSteps, Cycle.attemptPlan]
    cases job.plan with
    | error reason => rfl
    | ok plan =>
        have carries : (place.desk engine).carryOut job.ticket.id plan matchedAt (some cycleId) =
            place.enter job.ticket.id >>= fun _ =>
              place.executor.apply job.ticket.id plan matchedAt (some cycleId) := rfl
        simp only [Script.perform_andThen, Script.perform_bind, Act.perform_attempt_bind, carries]
        simp only [Act.perform_bind, Script.perform_one]
        rcases (place.enter job.ticket.id).perform state with ⟨failure | _, between⟩
        · rfl
        · have follows : place.steps.Follows place.executor.store := place.steps_follows
          simp only [Executor.perform_applySteps follows]
          rfl
  have noted (executions : List Execution) (state : S) :
      ((Cycle.recordSteps (place.desk engine) executions).bind fun auditFailures =>
        Script.done (.ok (Cycle.Done.mk job.ticket.id executions auditFailures))).act.perform state =
      (Cycle.recordAll (place.desk engine) executions >>= fun auditFailures =>
        pure (Cycle.Done.mk job.ticket.id executions auditFailures)).perform state := by
    rw [Script.perform_bind, Act.perform_bind, Act.perform_bind, Cycle.perform_recordSteps]
    rfl
  rw [toDo, Cycle.execute, Script.perform_bind, Act.perform_bind, Act.perform_bind,
    Script.perform_bind, Act.perform_bind, attempted]
  rcases (Cycle.attemptPlan (place.desk engine) job matchedAt cycleId).perform state with
    ⟨failure | reason | executions, between⟩
  · rfl
  · simp only [executionSteps, Script.perform_one]
    rw [Act.perform_bind]
    rcases (Cycle.failedExecutions (place.desk engine) job.ticket.id reason matchedAt cycleId
      job.firing).perform between with ⟨failure | executions, after⟩
    · rfl
    · exact noted executions after
  · exact noted executions between

/-- An engine at its own desk. -/
def own : Workplace World where
  part := Part.whole World
  store := engine.tickets
  dispatch := (engine.executor (Part.whole World) engine.tickets).dispatch
  template := engine.settings.notification.templateText
  sortOut := engine.desk.sortOut
  resolve := engine.desk.resolve
  enter _ := pure ()
  record := engine.desk.trail.record
  markExecuted := engine.desk.rules.markExecuted

theorem desk_own : (own engine).desk engine = engine.desk := rfl

end Workplace

/-! ## Sound workplaces -/

/-- An execution without the ids that were drawn for it. -/
def Execution.anonymous (execution : Execution) : Execution :=
  { execution with recordId := "", cycleId := none }

namespace Workplace

variable {S A : Type}

/-- Whatever happens at a workplace, it is what the engine does, or nothing that stands changes. -/
structure IsSound (place : Workplace S) (engine : Engine) : Prop where
  lawful : place.part.IsLawful
  hampers : engine.Hampers place.part place.store
  dispatch : forall dispatch, place.dispatch = some dispatch -> forall target text,
    (dispatch target text).Along (Engine.Unseen place.part)
  sortOut : forall rules ticket now,
    (place.sortOut rules ticket now).Along (Engine.Unseen place.part)
  resolve : forall ticket matching,
    (place.resolve ticket matching).Along (Engine.Unseen place.part)
  enter : forall id, (place.enter id).Along (Engine.Unseen place.part)
  record : forall execution, place.part.Attempts (Engine.trail.record execution)
    (fun result => Exists fun failure => result = .error failure ∧ failure.isOf .audit = true)
    (place.record execution)
  markExecuted : forall ids executedAt,
    place.part.Attempts (engine.rules.markExecuted ids executedAt)
      (fun result => Exists fun failure => result = .error failure ∧ failure.isDatabase = true)
      (place.markExecuted ids executedAt)

/-- An engine is at a sound workplace at its own desk. -/
theorem own_isSound (engine : Engine) : (own engine).IsSound engine := by
  have quiet := (Engine.tickets_hampers engine).isQuiet Part.whole_isLawful
  refine ⟨Part.whole_isLawful, Engine.tickets_hampers engine, quiet.dispatch, ?_, ?_, ?_, ?_, ?_⟩
  · exact fun _ _ _ => .pure (Engine.Unseen.refl _) _
  · exact fun _ _ => .pure (Engine.Unseen.refl _) _
  · exact fun _ => .pure (Engine.Unseen.refl _) _
  · exact fun _ _ => .inl ⟨rfl, rfl⟩
  · exact fun _ _ _ => .inl ⟨rfl, rfl⟩

/-- The states in which work can be done at a workplace. -/
def IsReady (place : Workplace S) (engine : Engine) (state : S) : Prop :=
  engine.IsReady (place.part.get state)

/-- What recording comes to: a row for the execution, or an audit failure and nothing else. -/
structure Noted (place : Workplace S) (engine : Engine) (execution : Execution) (state : S) :
    Prop where
  ready : place.IsReady engine ((place.record execution).perform state).2
  aside : (place.part.get ((place.record execution).perform state).2).offTrail =
    (place.part.get state).offTrail
  trail : (((place.record execution).perform state).1 = .ok () ∧ Exists fun rows =>
      Exists fun row => (place.part.get state).trailRows = some rows ∧
      Database.ExecutionRow.ofExecution execution = .ok row ∧
      (place.part.get ((place.record execution).perform state).2).trailRows =
        some (rows ++ [row])) ∨
    ((Exists fun failure => ((place.record execution).perform state).1 = .error failure ∧
        failure.isOf .audit = true) ∧
      (place.part.get ((place.record execution).perform state).2).trailRows =
        (place.part.get state).trailRows)

namespace IsSound

variable {place : Workplace S} {engine : Engine} {state : S}

theorem noted (sound : place.IsSound engine) (ready : place.IsReady engine state)
    (execution : Execution) : place.Noted engine execution state := by
  rcases sound.record execution state with ⟨answered, reached⟩ | ⟨refused, same⟩
  · rcases Engine.record_offTrail ready.calm execution with ⟨calm, aside⟩
    rcases Engine.same_of_offTrail aside with ⟨clock, stock, _⟩
    refine ⟨?_, ?_, ?_⟩
    · rw [IsReady, reached]
      exact ⟨calm, clock ▸ ready.utc, stock ▸ ready.sound⟩
    · rw [reached, aside]
    · rw [answered, reached]
      exact Engine.record_cases ready.calm execution
  · refine ⟨?_, congrArg World.offTrail same, .inr ⟨refused, congrArg World.trailRows same⟩⟩
    rw [IsReady, same]
    exact ready

/-- Changing a ticket touches nothing else, whether or not it reaches the engine. -/
theorem change_beside (sound : place.IsSound engine) (ready : place.IsReady engine state)
    (ticketId : String) (updates : Tickets.Updates) (expected : Instant) :
    engine.Beside ticketId (place.part.get state)
      (place.part.get ((place.store.change ticketId updates (some expected)).perform state).2) := by
  rcases sound.hampers.change ticketId updates (some expected) state with ⟨_, reached⟩ | ⟨_, same⟩
  · rw [reached]
    exact Engine.change_beside ready ticketId updates expected
  · rw [same]
    exact .refl ready ticketId

/-- Drawing an id leaves everything that stands. -/
theorem draw_unseen (sound : place.IsSound engine) :
    (Act.draw (Engine.drawFrom place.part World.drawRecordId)).Along
      (Engine.Unseen place.part) := by
  intro state calm
  have drawn : place.part.get ((Act.draw (Engine.drawFrom place.part
      World.drawRecordId)).perform state).2 = (World.drawRecordId (place.part.get state)).2 :=
    sound.lawful.get_set _ _
  rw [drawn]
  exact ⟨calm, rfl⟩

end IsSound

section Steps

variable (place : Workplace S) (engine : Engine) (along : S -> S -> Prop)

/-- An act leads along a relation, and work can go on after it. -/
def Passes (act : Act S A) : Prop := forall state, place.IsReady engine state ->
  place.IsReady engine (act.perform state).2 ∧ along state (act.perform state).2

/-- Whatever a plan for the ticket of an id needs leads along a relation. -/
structure Leads (ticketId : String) : Prop where
  reflexive : forall state, along state state
  transitive : forall first second third, along first second -> along second third ->
    along first third
  draw : place.Passes engine along (Act.draw (Engine.drawFrom place.part World.drawRecordId))
  dispatch : forall dispatch, place.dispatch = some dispatch -> forall target text,
    place.Passes engine along (dispatch target text)
  enter : place.Passes engine along (place.enter ticketId)
  find : place.Passes engine along (place.store.find ticketId)
  change : forall updates expected,
    place.Passes engine along (place.store.change ticketId updates (some expected))

end Steps

variable {place : Workplace S} {engine : Engine} {along : S -> S -> Prop} {ticketId : String}

/-- The single step of an act, with what is known of its answer. -/
theorem Passes.keeps {act : Act S A} (passes : place.Passes engine along act)
    {ends : Except Failure A -> Prop}
    (answers : forall state, place.IsReady engine state -> ends (act.perform state).1) :
    (Script.one act).Keeps (place.IsReady engine) along ends :=
  fun state ready => ⟨(passes state ready).1, (passes state ready).2, answers state ready⟩

/-- Work can go on after what leaves everything that stands. -/
theorem passes_of_unseen {act : Act S A} (unseen : act.Along (Engine.Unseen place.part))
    (moves : forall state, place.IsReady engine state -> along state (act.perform state).2) :
    place.Passes engine along act :=
  fun state ready => ⟨Engine.IsReady.of_standing ready (unseen state), moves state ready⟩

theorem passes_notify (reflexive : forall state, along state state)
    (sends : forall dispatch, place.dispatch = some dispatch -> forall target text,
      place.Passes engine along (dispatch target text))
    (ticketId : String) (ticket : Option Ticket) (planned : Planned) :
    place.Passes engine along (place.executor.notify ticketId ticket planned) := by
  unfold Executor.notify
  have nothing : place.Passes engine along (pure () : Act S Unit) :=
    fun state ready => ⟨ready, reflexive state⟩
  cases known : place.executor.dispatch with
  | none => exact nothing
  | some dispatch =>
      cases Executor.message place.executor.template planned.rule ticketId ticket with
      | none => exact nothing
      | some text =>
          exact fun state ready => sends dispatch known planned.action.target text state ready

/-! ## Executions of a job that failed as a whole -/

/-- The execution of a rule whose job failed as a whole, without its ids. -/
def failed (ticketId reason : String) (matchedAt : Instant) (rule : Rule) : Execution where
  recordId := ""
  cycleId := none
  ruleId := rule.id
  ruleVersion := rule.version
  ticketId := ticketId
  matchedAt := matchedAt
  actions := rule.actions
  outcome := .failed
  supersededBy := none
  error := some reason

/-- An id is drawn for the execution of the first rule, and then come the others. -/
theorem perform_failedExecutions_cons (place : Workplace S) (engine : Engine)
    (ticketId reason : String) (matchedAt : Instant) (cycleId : String) (rule : Rule)
    (rules : List Rule) (state : S) :
    (Cycle.failedExecutions (place.desk engine) ticketId reason matchedAt cycleId
      (rule :: rules)).perform state =
        ((List.cons { failed ticketId reason matchedAt rule with
          recordId := ((place.desk engine).recordId state).1
          cycleId := some cycleId }) <$> Cycle.failedExecutions (place.desk engine) ticketId reason
            matchedAt cycleId rules).perform ((place.desk engine).recordId state).2 := by
  rw [Cycle.failedExecutions, Act.perform_mapM_cons, bind_assoc, Act.perform_draw_bind, pure_bind]
  rfl

theorem passes_failedExecutions (reflexive : forall state, along state state)
    (transitive : forall first second third, along first second -> along second third ->
      along first third)
    (draws : place.Passes engine along (Act.draw (Engine.drawFrom place.part World.drawRecordId)))
    (ticketId reason : String) (matchedAt : Instant) (cycleId : String) (rules : List Rule) :
    place.Passes engine along (Cycle.failedExecutions (place.desk engine) ticketId reason matchedAt
      cycleId rules) := by
  induction rules with
  | nil => exact fun state ready => ⟨ready, reflexive state⟩
  | cons rule rest inductionHypothesis =>
      intro state ready
      rcases draws state ready with ⟨between, one⟩
      rcases inductionHypothesis _ between with ⟨after, two⟩
      rw [perform_failedExecutions_cons, Act.perform_map]
      exact ⟨after, transitive _ _ _ one two⟩

theorem failedExecutions_answers (ticketId reason : String) (matchedAt : Instant)
    (cycleId : String) (rules : List Rule) (state : S) :
    Script.Surely (fun executions : List Execution =>
        executions.map Execution.anonymous = rules.map (failed ticketId reason matchedAt))
      ((Cycle.failedExecutions (place.desk engine) ticketId reason matchedAt cycleId rules).perform
        state).1 := by
  induction rules generalizing state with
  | nil => exact ⟨[], rfl, rfl⟩
  | cons rule rest inductionHypothesis =>
      rcases inductionHypothesis ((place.desk engine).recordId state).2 with
        ⟨executions, answered, same⟩
      refine ⟨{ failed ticketId reason matchedAt rule with
        recordId := ((place.desk engine).recordId state).1
        cycleId := some cycleId } :: executions, ?_, congrArg₂ List.cons rfl same⟩
      rw [perform_failedExecutions_cons, Act.perform_map, answered]
      rfl

/-- Executions are about the ticket that they are about without their ids. -/
theorem ticketId_of_anonymous {executions : List Execution} {Group : Type} {groups : List Group}
    {make : Group -> Execution} (same : executions.map Execution.anonymous = groups.map make)
    (about : forall group, (make group).ticketId = ticketId) :
    forall execution, execution ∈ executions -> execution.ticketId = ticketId := by
  intro execution member
  rcases List.mem_map.mp (same ▸ List.mem_map_of_mem member) with ⟨group, _, made⟩
  have named := congrArg Execution.ticketId made
  exact named.symm.trans (about group)

/-! ## The steps of a job -/

theorem drawingSteps_keeps
    (draws : place.Passes engine along (Act.draw (Engine.drawFrom place.part World.drawRecordId)))
    (ticketId : String) (matchedAt : Instant) (cycleId : Option String) (groups : List Group) :
    (Executor.drawingSteps place.executor ticketId matchedAt cycleId groups).Keeps
      (place.IsReady engine) along (Script.Surely fun executions =>
        executions.map Execution.anonymous =
          groups.map fun group => group.execution "" ticketId matchedAt none) := by
  induction groups with
  | nil => exact .answer rfl
  | cons group rest inductionHypothesis =>
      have drawn : (Script.one (Act.draw place.executor.freshId)).Keeps (place.IsReady engine)
          along (Script.Surely fun _ => True) := Passes.keeps draws fun state _ => ⟨_, rfl, trivial⟩
      refine drawn.bindSurely fun recordId _ => ?_
      exact inductionHypothesis.bindSurely fun executions same =>
        .answer (congrArg₂ List.cons rfl same)

namespace Leads

variable (leads : place.Leads engine along ticketId)

include leads

theorem notifySteps (ticket : Option Ticket) (notifications : List Planned) :
    (Executor.notifySteps place.executor ticketId ticket notifications).Keeps (place.IsReady engine)
      along (Script.Surely fun _ => True) := by
  induction notifications with
  | nil => exact .answer trivial
  | cons planned rest inductionHypothesis =>
      have sends : (Script.one (place.executor.notify ticketId ticket planned)).Keeps
          (place.IsReady engine) along (Script.Surely fun _ => True) := by
        refine (passes_notify leads.reflexive leads.dispatch ticketId ticket planned).keeps
          fun state _ => ?_
        have quiet := Executor.isQuiet_trivial place.executor
        rcases Executor.perform_notify quiet ticketId ticket planned state with ⟨_, notified, _⟩
        exact ⟨(), congrArg Prod.fst notified, trivial⟩
      exact sends.bindSurely fun _ _ => inductionHypothesis

variable (sound : place.IsSound engine)

include sound

theorem findSteps : (place.steps.find ticketId).Keeps (place.IsReady engine) along fun result =>
    forall ticket, result = .ok (some ticket) -> ticket.id = ticketId := by
  refine leads.find.keeps fun state ready ticket found => ?_
  have known : (place.store.find ticketId).perform state =
      (.ok (some ticket), ((place.store.find ticketId).perform state).2) := Prod.ext found rfl
  exact Engine.id_of_held (sound.hampers.held_of_find ready.calm known)

theorem mutationSteps (mutations : List Planned) :
    (Executor.mutationSteps place.steps ticketId mutations).Keeps (place.IsReady engine) along
      (Script.Surely fun _ => True) := by
  have writes (live : Ticket) (named : live.id = ticketId) (planned : List Planned) :
      (Executor.writeSteps place.steps live planned).Keeps (place.IsReady engine) along
        (Script.Surely fun _ => True) := by
    subst named
    have changes : (place.steps.change live.id (.ofAspects (Plan.updates planned))
        (some live.updatedAt.instant)).Keeps (place.IsReady engine) along fun _ => True :=
      (leads.change _ _).keeps fun _ _ => trivial
    refine changes.andThen fun result _ => ?_
    cases result <;> exact .answer trivial
  have changes : (Executor.changeSteps place.steps ticketId mutations).Keeps
      (place.IsReady engine) along (Script.Surely fun _ => True) := by
    have rereads : (Executor.rereadSteps place.steps ticketId).Keeps (place.IsReady engine) along
        (Script.Surely fun answer => forall live, answer = .ok live -> live.id = ticketId) := by
      refine (leads.findSteps sound).andThen fun result found => ?_
      rcases result with failure | _ | ticket
      · exact .answer fun live same => nomatch same
      · exact .answer fun live same => nomatch same
      · refine .answer fun live same => ?_
        cases same
        exact found ticket rfl
    refine rereads.bindSurely fun answer named => ?_
    cases answer with
    | error fault => exact .answer trivial
    | ok live =>
        show Script.Keeps _ _ _ (if _ then _ else _)
        split
        · exact .answer trivial
        · exact (writes live (named live rfl) _).bindSurely fun _ _ => .answer trivial
  unfold Executor.mutationSteps
  split
  · exact .answer trivial
  · exact changes.bindSurely fun answer _ => .answer trivial

theorem notificationSteps (live : Option Ticket) (entries : List Entry)
    (notifications : List Planned) :
    (Executor.notificationSteps place.steps place.executor ticketId live entries
      notifications).Keeps (place.IsReady engine) along (Script.Surely fun _ => True) := by
  have describes : (Executor.describedSteps place.steps ticketId live entries).Keeps
      (place.IsReady engine) along (Script.Surely fun _ => True) := by
    cases live with
    | some ticket => exact .answer trivial
    | none =>
        refine (leads.findSteps sound).andThen fun result _ => ?_
        cases result <;> exact .answer trivial
  unfold Executor.notificationSteps
  split
  · exact .answer trivial
  · refine describes.bindSurely fun ticket _ => ?_
    exact (leads.notifySteps ticket _).bindSurely fun _ _ => .answer trivial

theorem applySteps (plan : Plan) (matchedAt : Instant) (cycleId : Option String) :
    (place.executor.applySteps place.steps ticketId plan matchedAt cycleId).Keeps
      (place.IsReady engine) along (Script.Surely fun executions =>
        forall execution, execution ∈ executions -> execution.ticketId = ticketId) := by
  refine (leads.mutationSteps sound plan.mutations).bindSurely fun changed _ => ?_
  refine (leads.notificationSteps sound changed.1 _ plan.notifications).bindSurely fun sent _ => ?_
  refine (drawingSteps_keeps leads.draw ticketId matchedAt cycleId _).weaken
    (fun _ _ moved => moved) fun result ended => ?_
  rcases ended with ⟨executions, rfl, same⟩
  exact ⟨executions, rfl, ticketId_of_anonymous same fun _ => rfl⟩

/-- The steps of a job up to its executions. -/
theorem executionSteps (matchedAt : Instant) (cycleId : String) {job : Job}
    (about : job.ticket.id = ticketId) :
    ((place.attemptSteps matchedAt cycleId job).bind
      (place.executionSteps engine matchedAt cycleId job)).Keeps (place.IsReady engine) along
        (Script.Surely fun executions => forall execution, execution ∈ executions ->
          execution.ticketId = ticketId) := by
  subst about
  have attempts : (place.attemptSteps matchedAt cycleId job).Keeps (place.IsReady engine) along
      (Script.Surely fun answer => forall executions, answer = .ok executions ->
        forall execution, execution ∈ executions -> execution.ticketId = job.ticket.id) := by
    unfold attemptSteps
    cases job.plan with
    | error reason => exact .answer fun executions same => nomatch same
    | ok plan =>
        have enters : (Script.one (place.enter job.ticket.id)).Keeps (place.IsReady engine) along
            fun _ => True := leads.enter.keeps fun _ _ => trivial
        have carries : ((Script.one (place.enter job.ticket.id)).bind fun _ =>
            place.executor.applySteps place.steps job.ticket.id plan matchedAt (some cycleId)).Keeps
              (place.IsReady engine) along fun result => forall executions,
                result = .ok executions -> forall execution, execution ∈ executions ->
                  execution.ticketId = job.ticket.id := by
          refine enters.bind (fun _ _ => ?_) fun failure _ executions same => nomatch same
          refine (leads.applySteps sound plan matchedAt (some cycleId)).weaken
            (fun _ _ moved => moved) fun result ended executions same => ?_
          rcases ended with ⟨_, rfl, named⟩
          cases same
          exact named
        refine carries.andThen fun result named => .answer fun executions same => ?_
        cases result with
        | error failure => cases same
        | ok executions_ =>
            cases same
            exact named executions rfl
  refine attempts.bindSurely fun answer named => ?_
  cases answer with
  | ok executions => exact .answer (named executions rfl)
  | error reason =>
      refine (passes_failedExecutions leads.reflexive leads.transitive leads.draw job.ticket.id
        reason matchedAt cycleId job.firing).keeps fun state _ => ?_
      rcases @failedExecutions_answers S place engine job.ticket.id reason matchedAt cycleId
        job.firing state with ⟨executions, answered, same⟩
      exact ⟨executions, answered, ticketId_of_anonymous same fun _ => rfl⟩

end Leads

section Recording

variable (sound : place.IsSound engine)
  (records : forall execution, execution.ticketId = ticketId ->
    place.Passes engine along (place.record execution))

include sound records

theorem recordSteps_keeps {executions : List Execution}
    (about : forall execution, execution ∈ executions -> execution.ticketId = ticketId) :
    (Cycle.recordSteps (place.desk engine) executions).Keeps (place.IsReady engine) along
      (Script.Surely fun _ => True) := by
  induction executions with
  | nil => exact .answer trivial
  | cons execution rest inductionHypothesis =>
      have later := inductionHypothesis fun behind member =>
        about behind (List.mem_cons_of_mem _ member)
      have noted : (Script.one (place.record execution)).Keeps (place.IsReady engine) along
          fun result => forall failure, result = .error failure ->
            failure.isOf .audit = true := by
        refine (records execution (about execution List.mem_cons_self)).keeps
          fun state ready failure failed => ?_
        rcases (sound.noted ready execution).trail with ⟨fine, _⟩ | ⟨⟨_, refused, audit⟩, _⟩
        · rw [fine] at failed
          cases failed
        · rw [refused] at failed
          cases failed
          exact audit
      refine noted.andThen fun result known => ?_
      cases result with
      | ok _ => exact later
      | error failure =>
          simp only [known failure rfl, if_true]
          exact later.bindSurely fun _ _ => .answer trivial

/-- A job is brought to its end, and leads along what its operations lead along. -/
theorem Leads.toDo (leads : place.Leads engine along ticketId) (matchedAt : Instant)
    (cycleId : String) {job : Job} (about : job.ticket.id = ticketId) :
    (place.toDo engine matchedAt cycleId job).Keeps (place.IsReady engine) along fun result =>
      Exists fun done => result = .ok done := by
  refine (leads.executionSteps sound matchedAt cycleId about).bindSurely fun executions named => ?_
  exact (recordSteps_keeps sound records named).bindSurely fun auditFailures _ => ⟨_, rfl⟩

end Recording

/-- Every job is brought to its end. -/
theorem toDo_answers (sound : place.IsSound engine) (matchedAt : Instant) (cycleId : String)
    (job : Job) : (place.toDo engine matchedAt cycleId job).Keeps (place.IsReady engine)
      (fun _ _ => True) fun result => Exists fun done => result = .ok done := by
  have leads : place.Leads engine (fun _ _ => True) job.ticket.id :=
    ⟨fun _ => trivial, fun _ _ _ _ _ => trivial,
      passes_of_unseen sound.draw_unseen fun _ _ => trivial,
      fun dispatch known target text =>
        passes_of_unseen (sound.dispatch dispatch known target text) fun _ _ => trivial,
      passes_of_unseen (sound.enter _) fun _ _ => trivial,
      passes_of_unseen (sound.hampers.find_unseen _) fun _ _ => trivial,
      fun updates expected state ready =>
        ⟨(sound.change_beside ready _ updates expected).ready, trivial⟩⟩
  exact leads.toDo sound (fun execution _ state ready =>
    ⟨(sound.noted ready execution).ready, trivial⟩) matchedAt cycleId rfl

end Workplace
end Triage
