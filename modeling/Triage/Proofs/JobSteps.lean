import Triage.Proofs.Cycle
import Triage.Proofs.Interleaving

namespace Triage

/-!
# A cycle step by step

The steps of a cycle as far as they are about one of its jobs: the rules and tickets are fetched,
the plan of the job is carried out, and what became of it is noted.  Between any two of these
steps there is room for everything else, the other jobs of the cycle included.  With nobody else
around the steps are those of the acts that a desk consists of.
-/

namespace Database.Pool

variable {D R A : Type}

/-- The steps of a query whose rows are read one by one. -/
def loadSteps (statement : Statement D (List R)) (read : R -> Except Failure A)
    (wording : Failure -> Failure) : Script (Pool D) (List A) :=
  ((querySteps statement).bind fun rows => .done (rows.mapM read)).andThen fun result =>
    .done (result.mapError wording)

theorem perform_loadSteps (statement : Statement D (List R)) (read : R -> Except Failure A)
    (wording : Failure -> Failure) (pool : Pool D) :
    (loadSteps statement read wording).act.perform pool =
      (Act.mapFailure wording (query statement >>= fun rows =>
        Act.ofResult (rows.mapM read))).perform pool := by
  have loads : ((querySteps statement).bind fun rows =>
      .done (rows.mapM read)).act.perform pool =
        (query statement >>= fun rows => Act.ofResult (rows.mapM read)).perform pool := by
    rw [Script.perform_bind, Act.perform_bind, Act.perform_bind, perform_querySteps]
    rfl
  rw [loadSteps, Script.perform_andThen, Act.perform_mapFailure, loads]
  rfl

end Database.Pool

namespace Executor

variable {S : Type}

section Steps

variable (steps : Tickets.Stepwise S) (executor : Executor S)

/-- The steps of making planned changes, with what is said of them. -/
def mutationSteps (ticketId : String) (mutations : List Planned) :
    Script S (Option Ticket × List Entry) :=
  if mutations.isEmpty then .done (.ok (none, []))
  else (changeSteps steps ticketId mutations).bind fun answer =>
    .done (.ok (entriesOf mutations answer))

/-- The steps of finding the ticket that notifications describe. -/
def describedSteps (ticketId : String) (live : Option Ticket) (entries : List Entry) :
    Script S (Option Ticket) :=
  match live with
  | some ticket => .done (.ok (some (ticket.setAll (appliedValues entries))))
  | none => (steps.find ticketId).andThen fun
      | .ok ticket => .done (.ok ticket)
      | .error _ => .done (.ok none)

/-- The steps of sending notifications, one for each. -/
def notifySteps (ticketId : String) (ticket : Option Ticket) : List Planned -> Script S Unit
  | [] => .done (.ok ())
  | planned :: rest =>
      (Script.one (executor.notify ticketId ticket planned)).bind fun _ =>
        notifySteps ticketId ticket rest

def notificationSteps (ticketId : String) (live : Option Ticket) (entries : List Entry)
    (notifications : List Planned) : Script S (List Entry) :=
  if notifications.isEmpty then .done (.ok [])
  else (describedSteps steps ticketId live entries).bind fun ticket =>
    (notifySteps executor ticketId ticket notifications).bind fun _ =>
      .done (.ok (notifications.map (entryOf .applied none)))

/-- The steps of drawing ids, one for each group. -/
def drawingSteps (ticketId : String) (matchedAt : Instant) (cycleId : Option String) :
    List Group -> Script S (List Execution)
  | [] => .done (.ok [])
  | group :: rest =>
      (Script.one (Act.draw executor.freshId)).bind fun recordId =>
        (drawingSteps ticketId matchedAt cycleId rest).bind fun executions =>
          .done (.ok (group.execution recordId ticketId matchedAt cycleId :: executions))

def applySteps (ticketId : String) (plan : Plan) (matchedAt : Instant)
    (cycleId : Option String) : Script S (List Execution) :=
  (mutationSteps steps ticketId plan.mutations).bind fun (live, changes) =>
    (notificationSteps steps executor ticketId live
      (changes ++ plan.superseded.map entryOfSuperseded) plan.notifications).bind fun sent =>
        drawingSteps executor ticketId matchedAt cycleId
          (groups (changes ++ plan.superseded.map entryOfSuperseded ++ sent))

end Steps

variable {steps : Tickets.Stepwise S} {executor : Executor S}

theorem perform_mutationSteps (follows : steps.Follows executor.store) (ticketId : String)
    (mutations : List Planned) (state : S) :
    (mutationSteps steps ticketId mutations).act.perform state =
      (applyMutations executor.store ticketId mutations).perform state := by
  cases empty : mutations.isEmpty with
  | true =>
      rw [mutationSteps, applyMutations, empty]
      rfl
  | false =>
      rw [perform_changeSteps follows ticketId empty, mutationSteps, empty,
        if_neg Bool.false_ne_true, Script.perform_bind, map_eq_pure_bind]
      rfl

theorem perform_describedSteps (follows : steps.Follows executor.store) (ticketId : String)
    (live : Option Ticket) (entries : List Entry) (state : S) :
    (describedSteps steps ticketId live entries).act.perform state =
      (described executor.store ticketId live entries).perform state := by
  cases live with
  | some ticket => rfl
  | none =>
      rw [describedSteps, Script.perform_andThen, described, Act.perform_attempt_bind,
        follows.find]
      rcases ((executor.store.find ticketId).perform state).1 with failure | ticket <;> rfl

theorem perform_notifySteps (ticketId : String) (ticket : Option Ticket)
    (notifications : List Planned) (state : S) :
    (notifySteps executor ticketId ticket notifications).act.perform state =
      (executor.notifyAll ticketId ticket notifications).perform state := by
  induction notifications generalizing state with
  | nil => rfl
  | cons planned rest inductionHypothesis =>
      rw [notifySteps, Script.perform_bind, notifyAll, Act.perform_bind, Act.perform_bind,
        Script.perform_one]
      simp only [inductionHypothesis]

theorem perform_notificationSteps (follows : steps.Follows executor.store) (ticketId : String)
    (live : Option Ticket) (entries : List Entry) (notifications : List Planned) (state : S) :
    (notificationSteps steps executor ticketId live entries notifications).act.perform state =
      (executor.applyNotifications ticketId live entries notifications).perform state := by
  cases empty : notifications.isEmpty with
  | true =>
      rw [notificationSteps, applyNotifications, empty]
      rfl
  | false =>
      rw [notificationSteps, applyNotifications, empty]
      simp only [Bool.false_eq_true, if_false]
      rw [Script.perform_bind, Act.perform_bind, Act.perform_bind, perform_describedSteps follows]
      simp only [Script.perform_bind]
      simp only [Act.perform_bind, perform_notifySteps]
      rfl

theorem perform_drawingSteps (ticketId : String) (matchedAt : Instant) (cycleId : Option String)
    (gathered : List Group) (state : S) :
    (drawingSteps executor ticketId matchedAt cycleId gathered).act.perform state =
      (gathered.mapM fun group : Group => do
        let recordId <- Act.draw executor.freshId
        pure (group.execution recordId ticketId matchedAt cycleId)).perform state := by
  induction gathered generalizing state with
  | nil => rfl
  | cons group rest inductionHypothesis =>
      rw [drawingSteps, Script.perform_bind, Act.perform_mapM_cons, bind_assoc,
        Act.perform_draw_bind, pure_bind, Act.perform_bind, Script.perform_one, Act.perform_draw]
      simp only [Script.perform_bind]
      rw [Act.perform_bind, map_eq_pure_bind, Act.perform_bind, inductionHypothesis]
      rfl

theorem perform_applySteps (follows : steps.Follows executor.store) (ticketId : String)
    (plan : Plan) (matchedAt : Instant) (cycleId : Option String) (state : S) :
    (applySteps steps executor ticketId plan matchedAt cycleId).act.perform state =
      (executor.apply ticketId plan matchedAt cycleId).perform state := by
  rw [applySteps, apply, Script.perform_bind, Act.perform_bind, Act.perform_bind,
    perform_mutationSteps follows]
  rcases (applyMutations executor.store ticketId plan.mutations).perform state with
    ⟨failure | ⟨live, changes⟩, between⟩
  · rfl
  · simp only [Script.perform_bind]
    rw [Act.perform_bind, Act.perform_bind, perform_notificationSteps follows]
    simp only [perform_drawingSteps]

end Executor

namespace Cycle

variable {S : Type} {steps : Tickets.Stepwise S} {executor : Executor S} {desk : Desk S}

/-- The steps of carrying out the plan of a job; the reason is an answer where that fails. -/
def attemptSteps (steps : Tickets.Stepwise S) (executor : Executor S) (matchedAt : Instant)
    (cycleId : String) (job : Job) : Script S (Except String (List Execution)) :=
  match job.plan with
  | .error reason => .done (.ok (.error reason))
  | .ok plan =>
      (executor.applySteps steps job.ticket.id plan matchedAt (some cycleId)).andThen fun result =>
        .done (.ok (result.mapError fun failure => "Ticket unit failed: " ++ failure.report))

/-- The steps of noting executions, one for each. -/
def recordSteps (desk : Desk S) : List Execution -> Script S Nat
  | [] => .done (.ok 0)
  | execution :: executions =>
      (Script.one (desk.trail.record execution)).andThen fun
        | .ok _ => recordSteps desk executions
        | .error failure =>
            if failure.isOf .audit then
              (recordSteps desk executions).bind fun later => .done (.ok (later + 1))
            else .done (.error failure)

/-- The steps of a job: its plan is carried out, and what became of it is noted. -/
def executeSteps (desk : Desk S) (steps : Tickets.Stepwise S) (executor : Executor S)
    (matchedAt : Instant) (cycleId : String) (job : Job) : Script S Done :=
  (attemptSteps steps executor matchedAt cycleId job).bind fun answer =>
    (match answer with
      | .ok executions => Script.done (.ok executions)
      | .error reason => .one
          (failedExecutions desk job.ticket.id reason matchedAt cycleId job.firing)).bind
      fun executions => (recordSteps desk executions).bind fun auditFailures =>
        .done (.ok ⟨job.ticket.id, executions, auditFailures⟩)

theorem perform_attemptSteps (follows : steps.Follows executor.store)
    (carries : desk.carryOut = executor.apply)
    (matchedAt : Instant) (cycleId : String) (job : Job) (state : S) :
    (attemptSteps steps executor matchedAt cycleId job).act.perform state =
      (attemptPlan desk job matchedAt cycleId).perform state := by
  rw [attemptSteps, attemptPlan]
  cases job.plan with
  | error reason => rfl
  | ok plan =>
      simp only [Script.perform_andThen, Executor.perform_applySteps follows, carries,
        Act.perform_attempt_bind]
      rfl

theorem perform_recordSteps (executions : List Execution) (state : S) :
    (recordSteps desk executions).act.perform state =
      (recordAll desk executions).perform state := by
  induction executions generalizing state with
  | nil => rfl
  | cons execution rest inductionHypothesis =>
      rw [recordSteps, Script.perform_andThen, recordAll, Act.perform_attempt_bind,
        Script.perform_one]
      rcases (desk.trail.record execution).perform state with ⟨failure | _, between⟩
      · simp only
        split
        · rw [Script.perform_bind, Act.perform_bind, Act.perform_bind, inductionHypothesis]
          rfl
        · rfl
      · exact inductionHypothesis between

theorem perform_executeSteps (follows : steps.Follows executor.store)
    (carries : desk.carryOut = executor.apply)
    (matchedAt : Instant) (cycleId : String) (job : Job) (state : S) :
    (executeSteps desk steps executor matchedAt cycleId job).act.perform state =
      (execute desk matchedAt cycleId job).perform state := by
  rw [executeSteps, execute, Script.perform_bind, Act.perform_bind, Act.perform_bind,
    perform_attemptSteps follows carries]
  rcases (attemptPlan desk job matchedAt cycleId).perform state with
    ⟨failure | reason | executions, between⟩
  · rfl
  · simp only [Script.perform_bind]
    rw [Act.perform_bind, Act.perform_bind, Script.perform_one]
    simp only [Script.perform_bind]
    simp only [Act.perform_bind, perform_recordSteps]
    rfl
  · simp only [Script.perform_bind]
    rw [Act.perform_bind, Act.perform_bind]
    simp only [Script.perform_bind]
    simp only [Act.perform_bind, perform_recordSteps]
    rfl

end Cycle

namespace Engine

def activeSteps : Script Database (List Rule) :=
  Database.Pool.loadSteps Database.RuleTable.selectActive Rules.ofRow
    Rules.Catalog.loadingFailure

/-- The steps of listing the open tickets; in memory this is one step. -/
def listSteps (engine : Engine) : Script World (List Ticket) :=
  match engine.home with
  | .memory => .one (engine.tickets.listOpen none)
  | .database => (Database.Pool.loadSteps
      (Database.TicketTable.selectOpen engine.vocabulary.closedStatuses none) Tickets.ofRow
        Tickets.listingFailure).on World.databasePart

/-- The steps of reading what a cycle works with. -/
def readSteps (engine : Engine) : Script World (List Rule × List Ticket) :=
  (activeSteps.on World.databasePart).bind fun rules =>
    engine.listSteps.bind fun tickets => .done (.ok (rules, tickets))

/-- The steps about one of the jobs that rules and tickets make. -/
def workSteps (engine : Engine) (cap : Int) (startedAt : Instant) (cycleId : String)
    (position : Nat) (rules : List Rule) (tickets : List Ticket) :
    Script World (Option Cycle.Done) :=
  match (Cycle.jobsOf engine.scale rules startedAt (Cycle.underCap cap tickets))[position]? with
  | none => .done (.ok none)
  | some job =>
      (Cycle.executeSteps engine.desk engine.ticketSteps
        (engine.executor (Part.whole World) engine.tickets) startedAt cycleId job).bind
          fun done => .done (.ok (some done))

/-- The steps of a cycle that began at some instant, as far as they are about one of its jobs. -/
def jobSteps (engine : Engine) (cap : Int) (startedAt : Instant) (cycleId : String)
    (position : Nat) : Script World (Option Cycle.Done) :=
  engine.readSteps.bind fun read =>
    engine.workSteps cap startedAt cycleId position read.1 read.2

variable {engine : Engine}

theorem perform_listSteps (world : World) :
    engine.listSteps.act.perform world = (engine.tickets.listOpen none).perform world := by
  cases home : engine.home with
  | memory =>
      rw [listSteps, home]
      exact Script.perform_one _ _
  | database =>
      rw [listSteps, tickets, home]
      simp only
      rw [Script.perform_on World.databasePart_isLawful, Part.perform_perform,
        Database.Pool.perform_loadSteps]
      rfl

/-- With nobody else around, the steps of reading read what a cycle works with. -/
theorem perform_readSteps (world : World) :
    engine.readSteps.act.perform world = (Cycle.read engine.desk).perform world := by
  have rules : (activeSteps.on World.databasePart).act.perform world =
      engine.rules.active.perform world := by
    rw [Script.perform_on World.databasePart_isLawful, Part.perform_perform, activeSteps,
      Database.Pool.perform_loadSteps]
    rfl
  have read : Cycle.read engine.desk = engine.rules.active >>= fun rules =>
      engine.tickets.listOpen none >>= fun tickets => pure (rules, tickets) := rfl
  rw [readSteps, read, Script.perform_bind, Act.perform_bind, Act.perform_bind, rules]
  simp only [Script.perform_bind]
  simp only [Act.perform_bind, perform_listSteps]
  rfl

/-- With nobody else around, the steps about a job are those of fetching it and doing it. -/
theorem perform_jobSteps (cap : Int) (startedAt : Instant) (cycleId : String) (position : Nat)
    {world : World} {rules : List Rule} {tickets : List Ticket} {fetched : World}
    (read : (Cycle.read engine.desk).perform world = (.ok (rules, tickets), fetched))
    {job : Cycle.Job} (known : (Cycle.jobsOf engine.scale rules startedAt
      (Cycle.underCap cap tickets))[position]? = some job) :
    (engine.jobSteps cap startedAt cycleId position).act.perform world =
      (some <$> Cycle.execute engine.desk startedAt cycleId job).perform fetched := by
  have executed := @Cycle.perform_executeSteps World engine.ticketSteps
    (engine.executor (Part.whole World) engine.tickets) engine.desk engine.ticketSteps_follows
    rfl startedAt cycleId job fetched
  rw [jobSteps, Script.perform_bind, Act.perform_bind, perform_readSteps, read]
  simp only [workSteps, known]
  rw [Script.perform_bind, Act.perform_bind, executed, Act.perform_map]
  rcases (Cycle.execute engine.desk startedAt cycleId job).perform fetched with
    ⟨failure | done, after⟩ <;> rfl

end Engine
end Triage
