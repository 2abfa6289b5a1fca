import Triage.Proofs.Executor
import Triage.Proofs.Cycle

namespace Triage

/-!
# Turns along a relation

All that a turn does to a state it does through its desk: it draws ids, reads rules and tickets,
carries out the plans of its jobs, notes executions and marks rules.  Where each of these operations
runs along a relation, the whole turn does.

Plans are only asked about as far as they come of the rules that the turn has read, so whatever is
known of stored rules can be used for what is done because of them.  In a plan it is the one write
that matters, and it is a write of some of the planned changes.
-/

/-! ## Carrying out a plan -/

namespace Executor

variable {S : Type} {executor : Executor S} {relation : S -> S -> Prop} {plan : Plan}

/-- Every write of some of the planned changes runs along a relation. -/
def WritesAlong (executor : Executor S) (relation : S -> S -> Prop) (mutations : List Planned) :
    Prop :=
  forall live planned, planned ⊆ mutations -> (writing executor.store live planned).Along relation

/-- Whatever course changes took, they went along the relation. -/
theorem Went.along (quiet : executor.IsQuiet relation) {ticketId : String}
    {mutations : List Planned} (writes : executor.WritesAlong relation mutations) {course : Course}
    {state after : S} (went : Went executor.store ticketId mutations course state after) :
    relation state after := by
  have reads {result : Except Fault Ticket} {between : S}
      (read : (reread executor.store ticketId).perform state = (.ok result, between)) :
      relation state between := by
    rcases perform_reread executor.store ticketId state with ⟨_, reached, performed, same⟩
    rw [read] at performed
    rw [(Prod.mk.inj performed).2, same]
    exact quiet.find ticketId state
  cases went with
  | nothing _ => exact quiet.refl state
  | unread read => exact reads read
  | inPlace read _ => exact reads read
  | @wrote live answer _ between _ read _ wrote =>
      have written := writes live (pending live mutations) List.filter_sublist.subset between
      rw [perform_write] at wrote
      rw [(Prod.mk.inj wrote).2] at written
      exact quiet.trans (reads read) written

theorem apply_along (quiet : executor.IsQuiet relation)
    (writes : executor.WritesAlong relation plan.mutations) (ticketId : String)
    (matchedAt : Instant) (cycleId : Option String) :
    (executor.apply ticketId plan matchedAt cycleId).Along relation := by
  intro state
  rcases perform_apply_groups quiet ticketId plan matchedAt cycleId state with
    ⟨course, between, executions, after, applied, went, later, _⟩
  rw [applied]
  exact quiet.trans (went.along quiet writes) later

end Executor

/-! ## A desk whose operations run along a relation -/

/-- Everything that a cycle asks of its desk runs along a relation, carrying out plans apart. -/
structure Desk.RunsAlong {S : Type} (desk : Desk S) (relation : S -> S -> Prop) : Prop where
  refl : forall state, relation state state
  trans : forall {first second third}, relation first second -> relation second third ->
    relation first third
  cycleId : (Act.draw desk.cycleId).Along relation
  recordId : (Act.draw desk.recordId).Along relation
  active : desk.rules.active.Along relation
  listOpen : (desk.tickets.listOpen none).Along relation
  record : forall execution, (desk.trail.record execution).Along relation
  markExecuted : forall ids executedAt, (desk.rules.markExecuted ids executedAt).Along relation

namespace Desk.RunsAlong

open Cycle

variable {S A B : Type} {desk : Desk S} {relation : S -> S -> Prop}
  (along : desk.RunsAlong relation)

include along

theorem bind {act : Act S A} {next : A -> Act S B} (first : act.Along relation)
    (later : forall a, (next a).Along relation) : (act >>= next).Along relation :=
  @Act.Along.bind S A B relation along.trans _ _ first later

theorem pure (a : A) : (Pure.pure a : Act S A).Along relation := .pure along.refl a

theorem read : (Cycle.read desk).Along relation :=
  along.bind along.active fun _ => along.bind along.listOpen fun _ => along.pure _

theorem failedExecutions (ticketId reason : String) (matchedAt : Instant) (cycleId : String)
    (rules : List Rule) :
    (Cycle.failedExecutions desk ticketId reason matchedAt cycleId rules).Along relation :=
  @Act.Along.mapM S _ _ relation along.refl along.trans _
    (fun _ => along.bind along.recordId fun _ => along.pure _) rules

theorem recordAll (executions : List Execution) :
    (Cycle.recordAll desk executions).Along relation :=
  recordAll_along along.refl along.trans along.record executions

/-- A job is done along a relation if its plan, where it has one, is carried out along it. -/
theorem execute {matchedAt : Instant} {cycleId : String} {job : Job}
    (carries : forall plan, job.plan = .ok plan ->
      (desk.carryOut job.ticket.id plan matchedAt (some cycleId)).Along relation) :
    (Cycle.execute desk matchedAt cycleId job).Along relation := by
  have attempted : (attemptPlan desk job matchedAt cycleId).Along relation := by
    rw [attemptPlan]
    cases known : job.plan with
    | error reason => exact along.pure _
    | ok plan => exact along.bind (.attempt (carries plan known)) fun _ => along.pure _
  have noted (executions : List Execution) : (Cycle.recordAll desk executions >>= fun failures =>
      Pure.pure (Done.mk job.ticket.id executions failures)).Along relation :=
    along.bind (along.recordAll executions) fun _ => along.pure _
  refine along.bind attempted fun answer => ?_
  cases answer with
  | ok executions => exact along.bind (along.pure executions) noted
  | error reason => exact along.bind (along.failedExecutions _ _ _ _ _) noted

end Desk.RunsAlong

/-! ## Flows -/

namespace Cycle

variable {S A B : Type} {desk : Desk S} {relation : S -> S -> Prop}

/-- The worlds of two flows are related, whatever else becomes of the flow. -/
def Flow.Along (relation : S -> S -> Prop) (before after : Flow S) : Prop :=
  relation before.world after.world

theorem world_along {act : Act S A} (along : act.Along relation) :
    ((world (S := S)).perform act).Along (Flow.Along relation) := fun flow => along flow.world

end Cycle

namespace Desk.RunsAlong

open Cycle

variable {S A B : Type} {desk : Desk S} {relation : S -> S -> Prop}
  (along : desk.RunsAlong relation)

include along

theorem bindFlow {act : Act (Flow S) A} {next : A -> Act (Flow S) B}
    (first : act.Along (Flow.Along relation))
    (later : forall a, (next a).Along (Flow.Along relation)) :
    (act >>= next).Along (Flow.Along relation) :=
  @Act.Along.bind (Flow S) A B (Flow.Along relation) along.trans _ _ first later

/-- What only changes the report or what is remembered leaves the world. -/
theorem note (change : Report -> Report) :
    (Cycle.note (S := S) change).Along (Flow.Along relation) := fun flow => along.refl flow.world

theorem remember (change : Scheduler -> Scheduler) :
    (Cycle.remember (S := S) change).Along (Flow.Along relation) :=
  fun flow => along.refl flow.world

theorem look (read : Flow S -> A) : (Act.look read).Along (Flow.Along relation) :=
  fun flow => along.refl flow.world

theorem work {matchedAt : Instant} {isLate : S -> Bool} {jobs : List Job}
    (does : forall job, job ∈ jobs -> forall cycleId,
      (Cycle.execute desk matchedAt cycleId job).Along relation) :
    (Cycle.work desk matchedAt isLate jobs).Along (Flow.Along relation) := by
  induction jobs with
  | nil => exact fun flow => along.refl flow.world
  | cons job rest inductionHypothesis =>
      have later := inductionHypothesis fun other member =>
        does other (List.mem_cons_of_mem job member)
      refine along.bindFlow (along.look _) fun decided => ?_
      cases decided with
      | stopped => exact along.bindFlow (along.note _) fun _ => later
      | late => exact along.bindFlow (along.note _) fun _ => later
      | go =>
          refine along.bindFlow (along.look _) fun cycleId => along.bindFlow
            (world_along (does job List.mem_cons_self cycleId)) fun done => ?_
          exact along.bindFlow later fun _ flow => along.refl flow.world

theorem mark (startedAt : Instant) :
    (Cycle.mark desk startedAt).Along (Flow.Along relation) := by
  refine along.bindFlow (along.look _) fun ids => ?_
  split
  · exact fun flow => along.refl flow.world
  · refine along.bindFlow (.attempt (world_along (along.markExecuted ids startedAt))) fun marked => ?_
    cases marked with
    | ok _ => exact fun flow => along.refl flow.world
    | error failure =>
        simp only
        split
        · exact along.remember _
        · exact fun flow => along.refl flow.world

theorem conclude (startedAt : Instant) (done : List Done) :
    (Cycle.conclude desk startedAt done).Along (Flow.Along relation) :=
  along.bindFlow (along.remember _) fun _ => along.bindFlow (along.note _) fun _ =>
    along.bindFlow (along.mark startedAt) fun _ =>
      along.bindFlow (fun flow => along.refl flow.world) fun _ => along.remember _

end Desk.RunsAlong

/-! ## Whole turns -/

namespace Cycle.Turn

variable {S : Type} {base : Desk S} {relation : S -> S -> Prop} (turn : Turn S)

/-- Drawing the id of the cycle and reading go along the relation. -/
theorem readings_along (along : base.RunsAlong relation) :
    relation turn.state (turn.readings base).2 :=
  along.trans (along.cycleId turn.state) (along.read (turn.begun base))

/-- A turn goes along a relation if the plans that come of what it read are carried out along it. -/
theorem along (along : base.RunsAlong relation) {scale : PriorityScale}
    (decides : Decides base scale)
    (carries : forall rules tickets, (turn.readings base).1 = .ok (rules, tickets) ->
      forall ticket, ticket ∈ tickets -> forall cycleId,
        (base.carryOut ticket.id (Plan.onTicket scale rules ticket (turn.startedAt base).instant)
          (turn.startedAt base).instant cycleId).Along relation) :
    relation turn.state (turn.after base) := by
  have readings := turn.readings_along along
  rcases reads : turn.readings base with ⟨failure | ⟨rules, tickets⟩, fetched⟩
  · rw [reads] at readings
    rw [(turn.outcome_of_error base reads).1]
    exact readings
  · rw [reads] at readings carries
    rcases @perform_fetch S (turn.desk base) rules tickets (turn.fetching base) fetched
      turn.pace.cap reads with ⟨scheduler, fetches, _⟩
    generalize made : Flow.mk fetched scheduler _ = flow at fetches
    rcases @perform_prepare S (turn.desk base) scale rules (underCap turn.pace.cap tickets) flow
      ⟨decides.sortOut, decides.resolve⟩ (turn.startedAt base).instant with
      ⟨later, prepares, _⟩
    generalize prepared : Flow.mk flow.world later _ = ready at prepares
    have world : ready.world = fetched := by rw [<- prepared, <- made]
    have asDesk : (turn.desk base).RunsAlong relation := { along with }
    have does : (Cycle.work (turn.desk base) (turn.startedAt base).instant (turn.isLate base)
        (jobsOf scale rules (turn.startedAt base).instant (underCap turn.pace.cap tickets)) >>=
        Cycle.conclude (turn.desk base) (turn.startedAt base).instant).Along
          (Flow.Along relation) := by
      refine asDesk.bindFlow (asDesk.work fun job member cycleId => ?_) fun done =>
        asDesk.conclude _ done
      rcases mem_jobsOf.mp member with ⟨listed, _, _, planned⟩
      refine asDesk.execute fun plan known => ?_
      cases planned.symm.trans known
      exact carries rules tickets rfl job.ticket
        ((underCap_sublist _ _).subset listed) (some cycleId)
    have goes := does ready
    have bodily := turn.perform_body base
    rw [fetches] at bodily
    simp only [process_eq] at bodily
    rw [Act.perform_bind_ok prepares] at bodily
    have outcome := turn.outcome_eq base (bodily.trans (Prod.mk.eta).symm)
    have after : turn.after base = _ := congrArg (fun triple => triple.2.2) outcome
    rw [after]
    refine along.trans readings ?_
    rw [<- world]
    exact goes

end Cycle.Turn
end Triage
