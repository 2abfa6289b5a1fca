import Triage.Desk
import Triage.Metrics

namespace Triage

/-!
Cycles.

A cycle fetches the rules and tickets, sorts out which rules apply to which ticket, decides
what to do about each ticket, does it, and notes what was done.  Work on one ticket that fails
is noted as failed and does not keep the others from being worked on.
-/

/-- What a cycle is busy with. -/
inductive Phase where
  | idle
  | fetching
  | matching
  | resolving
  | executing
  | recording
deriving DecidableEq, Repr, Inhabited

/-- The written name of a phase. -/
def Phase.name : Phase -> String
  | idle => "idle"
  | fetching => "fetching"
  | matching => "matching"
  | resolving => "resolving"
  | executing => "executing"
  | recording => "recording"

/-- The pace of an engine: how often it runs and how much it takes on. -/
structure Pace where
  enabled : Bool
  /-- Seconds between two cycles. -/
  interval : Quantity
  /-- The most tickets of one cycle. -/
  cap : Int
  /-- Seconds after which a cycle begins no more work. -/
  deadline : Quantity
  /-- The longest delay after failed cycles, in seconds. -/
  longestDelay : Quantity
  evaluateOnCreate : Bool
deriving Inhabited

/-- What an engine remembers between cycles. -/
structure Scheduler where
  phase : Phase
  /-- How many cycles failed since the last one that did not. -/
  failures : Int
  lastError : Option String
  lastSuccess : Option Stamp
  lastReport : Option Report
  isRunning : Bool
  /-- Whether somebody asked to stop. -/
  isStopping : Bool
  metrics : Metrics
deriving Inhabited

/-- A scheduler before its first cycle. -/
def Scheduler.initial : Scheduler :=
  ⟨.idle, 0, none, none, none, false, false, .empty Metrics.standardWindow⟩

namespace Cycle

/-- A cycle that is going on. -/
structure Flow (S : Type) where
  world : S
  scheduler : Scheduler
  report : Report

variable {S : Type}

/-- The world of a cycle that is going on. -/
def world : Part (Flow S) S := ⟨Flow.world, fun world flow => { flow with world }⟩

/-- Changes the report. -/
def note (change : Report -> Report) : Act (Flow S) Unit :=
  Act.change fun flow => { flow with report := change flow.report }

/-- Changes what the engine remembers. -/
def remember (change : Scheduler -> Scheduler) : Act (Flow S) Unit :=
  Act.change fun flow => { flow with scheduler := change flow.scheduler }

/-- Enters a phase. -/
def enter (phase : Phase) : Act (Flow S) Unit := remember fun scheduler => { scheduler with phase }

/-- Changes the metrics. -/
def measure (change : Metrics -> Metrics) : Act (Flow S) Unit :=
  remember fun scheduler => { scheduler with metrics := change scheduler.metrics }

/-! ## Fetching -/

/-- A failure to fetch, whatever it was. -/
def fetchFailure (cycleId : String) (failure : Failure) : Failure :=
  if failure.isOf .unavailable then failure
  else .raised .unavailable ("Failed to fetch cycle inputs: " ++ failure.report)
    (some "Scheduler") [("cycle_id", .text cycleId)]

/-- Reads the active rules and the open tickets. -/
def read (desk : Desk S) : Act S (List Rule × List Ticket) := do
  let rules <- desk.rules.active
  let tickets <- desk.tickets.listOpen none
  pure (rules, tickets)

/-- How many tickets stay over for a later cycle. -/
def overCap (cap : Int) (tickets : List Ticket) : Int :=
  if cap < tickets.length then tickets.length - cap else 0

def underCap (cap : Int) (tickets : List Ticket) : List Ticket :=
  if cap < tickets.length then Tickets.firstOf cap tickets else tickets

/-- Fetches the rules and the tickets of a cycle, and measures how long that takes. -/
def fetch (desk : Desk S) (cap : Int) : Act (Flow S) (List Rule × List Ticket) := do
  let started <- world.perform (Act.look desk.stopwatch)
  let result <- (world.perform (read desk)).attempt
  let ended <- world.perform (Act.look desk.stopwatch)
  measure fun metrics => metrics.timing "fetch_duration_ms" (Metrics.elapsed started ended) []
  let cycleId <- Act.look fun flow : Flow S => flow.report.cycleId
  let (rules, tickets) <- Act.ofResult (result.mapError (fetchFailure cycleId))
  let taken := underCap cap tickets
  note fun report => { report with
    ticketsDeferred := report.ticketsDeferred + overCap cap tickets
    rulesEvaluated := rules.length
    ticketsFetched := taken.length }
  pure (rules, taken)

/-! ## Jobs -/

/-- The work on one ticket: the rules that fire, and the plan or why there is none. -/
structure Job where
  ticket : Ticket
  firing : List Rule
  plan : Except String Plan

/-- A ticket on which rules fire. -/
structure Hit where
  ticket : Ticket
  matching : Matching

/-- Sorts out which rules apply to each ticket; tickets that cannot be sorted out become jobs. -/
def sortOut (desk : Desk S) (rules : List Rule) (now : Instant) :
    List Ticket -> Act S (List Hit × List Job)
  | [] => pure ([], [])
  | ticket :: tickets => do
      let result <- (desk.sortOut rules ticket now).attempt
      let (hits, failed) <- sortOut desk rules now tickets
      match result with
      | .error failure =>
          pure (hits, ⟨ticket, rules, .error ("Matching failed: " ++ failure.report)⟩ :: failed)
      | .ok matching =>
          pure (if matching.firing.isEmpty then hits else ⟨ticket, matching⟩ :: hits, failed)

/-- Decides what to do about each ticket. -/
def resolve (desk : Desk S) : List Hit -> Act S (List Job)
  | [] => pure []
  | hit :: hits => do
      let plan <- (desk.resolve hit.ticket hit.matching).attempt
      let jobs <- resolve desk hits
      let reason (failure : Failure) := "Conflict resolution failed: " ++ failure.report
      pure (⟨hit.ticket, hit.matching.firing, plan.mapError reason⟩ :: jobs)

/-! ## Doing the work -/

/-- What came of a job. -/
structure Done where
  ticketId : String
  executions : List Execution
  auditFailures : Nat
deriving Inhabited

/-- Whether anything about the job failed. -/
def Done.isFailed (done : Done) : Bool :=
  done.executions.any fun execution => execution.outcome == .failed

/-- The executions of a job that failed as a whole: one for each of its rules. -/
def failedExecutions (desk : Desk S) (ticketId reason : String) (matchedAt : Instant)
    (cycleId : String) (rules : List Rule) : Act S (List Execution) :=
  rules.mapM fun rule => do
    let recordId <- Act.draw desk.recordId
    pure {
      recordId := recordId
      cycleId := some cycleId
      ruleId := rule.id
      ruleVersion := rule.version
      ticketId := ticketId
      matchedAt := matchedAt
      actions := rule.actions
      outcome := .failed
      supersededBy := none
      error := some reason }

/-- Does what a plan says; the reason is an answer where that fails. -/
def attemptPlan (desk : Desk S) (job : Job) (matchedAt : Instant) (cycleId : String) :
    Act S (Except String (List Execution)) := do
  match job.plan with
  | .error reason => pure (.error reason)
  | .ok plan =>
      let result <- (desk.carryOut job.ticket.id plan matchedAt (some cycleId)).attempt
      pure (result.mapError fun failure => "Ticket unit failed: " ++ failure.report)

/-- Notes executions in the audit trail and counts those that could not be noted. -/
def recordAll (desk : Desk S) : List Execution -> Act S Nat
  | [] => pure 0
  | execution :: executions => do
      match <- (desk.trail.record execution).attempt with
      | .ok _ => recordAll desk executions
      | .error failure =>
          if failure.isOf .audit then
            let later <- recordAll desk executions
            pure (later + 1)
          else Act.ofResult (.error failure)

/-- Does one job and notes what was done. -/
def execute (desk : Desk S) (matchedAt : Instant) (cycleId : String) (job : Job) : Act S Done := do
  let executions <- match <- attemptPlan desk job matchedAt cycleId with
    | .ok executions => pure executions
    | .error reason => failedExecutions desk job.ticket.id reason matchedAt cycleId job.firing
  let auditFailures <- recordAll desk executions
  pure ⟨job.ticket.id, executions, auditFailures⟩

/-- What becomes of the next job: it is done, or left for a later cycle. -/
inductive Verdict where
  | go
  | stopped
  | late
deriving DecidableEq, Repr

/-- Whether the next job is done. -/
def verdict (isStopping isLate : Bool) : Verdict :=
  if isStopping then .stopped else if isLate then .late else .go

/-- Does jobs one after another, as long as nobody asked to stop and there is time. -/
def work (desk : Desk S) (matchedAt : Instant) (isLate : S -> Bool) :
    List Job -> Act (Flow S) (List Done)
  | [] => pure []
  | job :: jobs => do
      let decided <- Act.look fun flow : Flow S =>
        verdict flow.scheduler.isStopping (isLate flow.world)
      match decided with
      | .stopped =>
          note fun report => { report with
            cancelled := true
            ticketsDeferred := report.ticketsDeferred + 1 }
          work desk matchedAt isLate jobs
      | .late =>
          note fun report => { report with ticketsDeferred := report.ticketsDeferred + 1 }
          work desk matchedAt isLate jobs
      | .go => do
          let cycleId <- Act.look fun flow : Flow S => flow.report.cycleId
          let done <- world.perform (execute desk matchedAt cycleId job)
          let later <- work desk matchedAt isLate jobs
          pure (done :: later)

/-! ## Noting what was done -/

/-- The ids of rules with an execution that was applied, each once, in alphabetical order. -/
def executedIds (done : List Done) : List String :=
  let applied := (done.flatMap Done.executions).filter fun execution =>
    execution.outcome == .applied
  (applied.map Execution.ruleId).eraseDups.mergeSort fun a b => !(b < a)

def collect (done : List Done) (report : Report) : Report :=
  let counted := (done.flatMap Done.executions).foldl
    (fun report execution => report.count execution.outcome) report
  { counted with
    ticketsFailed := report.ticketsFailed + (done.filter Done.isFailed).length
    auditFailures := done.foldl (fun count job => count + job.auditFailures) report.auditFailures
    executedRuleIds := executedIds done }

/-- Notes when rules were executed; the database may refuse that without harm. -/
def mark (desk : Desk S) (startedAt : Instant) : Act (Flow S) Unit := do
  let ids <- Act.look fun flow : Flow S => flow.report.executedRuleIds
  if ids.isEmpty then pure ()
  else
    match <- (world.perform (desk.rules.markExecuted ids startedAt)).attempt with
    | .ok _ => pure ()
    | .error failure =>
        if failure.isDatabase then measure fun metrics => metrics.recordFailure "scheduler" "mark_executed"
        else Act.ofResult (.error failure)

/-! ## The whole cycle -/

/-- Gives a cycle up. -/
def abort (failure : Failure) : Act (Flow S) Unit := do
  note fun report => { report with aborted := true, error := some failure.message }
  remember fun scheduler => { scheduler with
    failures := scheduler.failures + 1
    lastError := some failure.message
    metrics := scheduler.metrics.recordFailure "scheduler" "repository_unavailable" }

/-- Works on what was fetched. -/
def process (desk : Desk S) (startedAt : Instant) (isLate : S -> Bool) (rules : List Rule)
    (tickets : List Ticket) : Act (Flow S) Unit := do
  enter .matching
  let (hits, failed) <- world.perform (sortOut desk rules startedAt tickets)
  note fun report => { report with
    ticketsMatched := hits.length
    ticketsEvaluated := (tickets.length : Int) - failed.length }
  enter .resolving
  let jobs <- world.perform (resolve desk hits)
  enter .executing
  let done <- work desk startedAt isLate (failed ++ jobs)
  enter .recording
  note (collect done)
  mark desk startedAt
  let now <- world.perform (Act.look desk.clock)
  remember fun scheduler => { scheduler with
    failures := 0
    lastError := none
    lastSuccess := some now }

/-- Everything between the beginning and the end of a cycle. -/
def body (desk : Desk S) (cap : Int) (startedAt : Instant) (isLate : S -> Bool) :
    Act (Flow S) Unit := do
  enter .fetching
  match <- (fetch desk cap).attempt with
  | .error failure => abort failure
  | .ok (rules, tickets) => process desk startedAt isLate rules tickets

/-- Whether a cycle that began at some time has gone on for too long. -/
def isLate (desk : Desk S) (deadline began : Quantity) (world : S) : Bool :=
  match began.add? deadline with
  | some latest => latest.le (desk.stopwatch world)
  | none => false

/-- The end of a cycle: its report is kept and counted, whether or not the cycle broke off. -/
def finish (finishedAt : Stamp) (flow : Flow S) : Flow S :=
  let report := { flow.report with finishedAt := some finishedAt }
  { flow with
    report := report
    scheduler := { flow.scheduler with
      lastReport := some report
      metrics := (flow.scheduler.metrics.recordCycle report).2
      phase := .idle } }

def run (desk : Desk S) (pace : Pace) (trigger : String) : Act (Scheduler × S) Report :=
  Act.of fun (scheduler, world) =>
    let began := desk.stopwatch world
    let (cycleId, world) := desk.cycleId world
    let startedAt := desk.clock world
    let (result, flow) := (body desk pace.cap startedAt.instant (isLate desk pace.deadline began)).perform
      ⟨world, scheduler, .opening cycleId trigger startedAt⟩
    let flow := finish (desk.clock flow.world) flow
    (result.map fun _ => flow.report, flow.scheduler, flow.world)

end Cycle
end Triage
