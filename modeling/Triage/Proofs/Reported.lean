import Triage.Proofs.Census
import Triage.Proofs.Collected
import Triage.Proofs.WorkplaceShift

namespace Triage

/-!
# What a report says of a shift

When everybody went home, the cycle collects what was done.  Its report counts every execution under
its outcome, the jobs of which an execution failed, and the rows that could not be written, and it
lists the rules with an execution that was applied.  Of the tickets that were taken on it tells those
that could not be sorted out from the others.  A cycle that is given up reports nothing.

What is said here holds for every desk, whatever fails there.
-/

/-- A report in which nothing is counted. -/
structure Report.IsBlank (report : Report) : Prop where
  outcomes : report.outcomes = Tally.zero
  rules : report.executedRuleIds = []
  fetched : report.ticketsFetched = 0
  evaluated : report.ticketsEvaluated = 0
  matched : report.ticketsMatched = 0
  deferred : report.ticketsDeferred = 0
  failed : report.ticketsFailed = 0
  auditFailures : report.auditFailures = 0

/-- Every outcome is counted in the place of a zero. -/
theorem Tally.zero_raised (outcomes : List Outcome) :
    Tally.zero.raised (outcomes.map Outcome.name) = Tally.of outcomes := by
  rw [Tally.raised, Tally.zero, Tally.of, List.map_map]
  refine List.map_congr_left fun outcome _ => Prod.ext rfl ?_
  show (0 : Int) + _ = _
  rw [Int.zero_add, List.count_map_of_injective _ _ Outcome.name_injective]

/-- What is counted of an outcome is how often it comes up. -/
theorem Tally.get_of (outcomes : List Outcome) (outcome : Outcome) :
    (Tally.of outcomes).get outcome.name = ((outcomes.count outcome : Nat) : Int) := by
  cases outcome <;> rfl

namespace Cycle

variable {S : Type} {desk : Desk S} {rules : List Rule} {now : Instant} {tickets : List Ticket}

/-! ## What is collected -/

/-- Of a report collecting what was done changes four parts. -/
theorem collect_parts (done : List Done) (report : Report) : collect done report = { report with
    outcomes := (((done.flatMap Done.executions).map yield).map
      fun pair => pair.1.name).foldl Tally.count report.outcomes
    ticketsFailed := report.ticketsFailed + (done.filter Done.isFailed).length
    auditFailures := report.auditFailures + ((done.map Done.auditFailures).sum : Nat)
    executedRuleIds := executedIds done } := by
  unfold collect
  rw [foldl_count_executions, foldl_auditFailures]

/-- Executions are counted under their outcomes. -/
theorem collect_outcomes (done : List Done) {report : Report}
    (blank : report.outcomes = Tally.zero) : (collect done report).outcomes =
      Tally.of ((done.flatMap Done.executions).map Execution.outcome) := by
  have names : ((done.flatMap Done.executions).map yield).map (fun pair => pair.1.name) =
      ((done.flatMap Done.executions).map Execution.outcome).map Outcome.name := by
    simp only [List.map_map]
    rfl
  rw [collect_parts, names, blank, Tally.foldl_count fun name member => ?_, Tally.zero_raised]
  rcases List.mem_map.mp member with ⟨outcome, _, rfl⟩
  exact Tally.knows_zero outcome

/-- The rules that are listed as executed are those with an execution that was applied. -/
theorem mem_executedIds {done : List Done} {id : String} : id ∈ executedIds done ↔
    Exists fun execution => execution ∈ done.flatMap Done.executions ∧
      execution.ruleId = id ∧ execution.outcome = .applied := by
  simp only [executedIds, List.mem_mergeSort, List.mem_eraseDups, List.mem_map, List.mem_filter,
    beq_iff_eq]
  constructor
  · rintro ⟨execution, ⟨member, applied⟩, same⟩
    exact ⟨execution, member, same, applied⟩
  · rintro ⟨execution, member, same, applied⟩
    exact ⟨execution, ⟨member, applied⟩, same⟩

/-- They are listed in alphabetical order, each once. -/
theorem executedIds_sorted (done : List Done) :
    (executedIds done).Pairwise fun a b => a < b := by
  have distinct : (executedIds done).Nodup :=
    (List.mergeSort_perm _ _).nodup_iff.mpr (nodup_eraseDups _)
  refine (pairwise_mergeSort_texts _).imp₂ (fun a b below apart => ?_) distinct
  by_contra above
  exact apart (String.le_antisymm below (String.not_lt.mp above))

/-! ## Tickets that cannot be sorted out -/

/-- The tickets for which sorting out fails, when they are tried one after another. -/
def unsorted (desk : Desk S) (rules : List Rule) (now : Instant) : List Ticket -> S -> List Ticket
  | [], _ => []
  | ticket :: tickets, state =>
      let tried := (desk.sortOut rules ticket now).perform state
      if tried.1.isOk then unsorted desk rules now tickets tried.2
      else ticket :: unsorted desk rules now tickets tried.2

/-- These are the tickets of the jobs that failed at sorting out. -/
theorem failed_unsorted {state after : S} {hits : List Hit} {failed : List Job}
    (sorts : (sortOut desk rules now tickets).perform state = (.ok (hits, failed), after)) :
    failed.map Job.ticket = unsorted desk rules now tickets state := by
  induction tickets generalizing state hits failed with
  | nil =>
      cases sorts
      rfl
  | cons ticket rest inductionHypothesis =>
      rcases of_sortOut_cons sorts with ⟨laterHits, laterFailed, later, _, rfl⟩
      have behind := inductionHypothesis later
      rw [unsorted, List.map_append, behind]
      cases ((desk.sortOut rules ticket now).perform state).1 <;> rfl

/-! ## Reports of cycles -/

end Cycle

/-- The report of a cycle that began at some time, before its jobs are counted. -/
structure Report.IsOpen (startedAt : Stamp) (unsorted : List Ticket) (report : Report) : Prop where
  startedAt : report.startedAt = startedAt
  outcomes : report.outcomes = Tally.zero
  auditFailures : report.auditFailures = 0
  failed : report.ticketsFailed = 0
  completed : report.aborted = false
  fetched : report.ticketsFetched = report.ticketsEvaluated + unsorted.length

/-- The report of a cycle that completed says what was done, and which tickets could not be sorted
out. -/
structure Report.Tells (done : List Cycle.Done) (unsorted : List Ticket) (report : Report) :
    Prop where
  completed : report.aborted = false
  outcomes : report.outcomes =
    Tally.of ((done.flatMap Cycle.Done.executions).map Execution.outcome)
  auditFailures : report.auditFailures = (((done.map Cycle.Done.auditFailures).sum : Nat) : Int)
  failed : report.ticketsFailed = (((done.filter Cycle.Done.isFailed).length : Nat) : Int)
  rules : report.executedRuleIds = Cycle.executedIds done
  fetched : report.ticketsFetched = report.ticketsEvaluated + unsorted.length

section Open

variable {startedAt : Stamp} {missed : List Ticket} {report : Report}

/-- A job that is left is not counted with those that are done. -/
theorem Report.IsOpen.note (isOpen : report.IsOpen startedAt missed) (verdict : Cycle.Verdict) :
    (verdict.note report).IsOpen startedAt missed := by
  rcases isOpen with ⟨begins, outcomes, auditFailures, failed, completed, fetched⟩
  cases verdict <;> exact ⟨begins, outcomes, auditFailures, failed, completed, fetched⟩

theorem Report.IsOpen.collected (isOpen : report.IsOpen startedAt missed)
    (done : List Cycle.Done) : (Cycle.collect done report).Tells done missed := by
  rcases isOpen with ⟨_, outcomes, auditFailures, failed, completed, fetched⟩
  have parts := Cycle.collect_parts done report
  refine ⟨(congrArg Report.aborted parts).trans completed, Cycle.collect_outcomes done outcomes,
    (congrArg Report.auditFailures parts).trans ?_, (congrArg Report.ticketsFailed parts).trans ?_,
    congrArg Report.executedRuleIds parts, ?_⟩
  · show report.auditFailures + _ = _
    rw [auditFailures, Int.zero_add]
  · show report.ticketsFailed + _ = _
    rw [failed, Int.zero_add]
  · refine (congrArg Report.ticketsFetched parts).trans (fetched.trans ?_)
    rw [congrArg Report.ticketsEvaluated parts]

/-- What a report says of the work does not depend on when the cycle ended. -/
theorem Report.Tells.ended {done : List Cycle.Done} (told : report.Tells done missed)
    (finishedAt : Option Stamp) : Report.Tells done missed { report with finishedAt } :=
  ⟨told.completed, told.outcomes, told.auditFailures, told.failed, told.rules, told.fetched⟩

theorem Report.IsOpen.startedAt_collected (isOpen : report.IsOpen startedAt missed)
    (done : List Cycle.Done) : (Cycle.collect done report).startedAt = startedAt :=
  (congrArg Report.startedAt (Cycle.collect_parts done report)).trans isOpen.startedAt

end Open

namespace Cycle

variable {S : Type} {startedAt : Stamp} {missed : List Ticket}

/-- Whatever a crew does, its jobs are counted at the end only. -/
theorem Crew.Step.isOpen {toDo : Job -> Script S Done} {crew next : Crew S}
    (step : Crew.Step toDo crew next) (isOpen : crew.flow.report.IsOpen startedAt missed) :
    next.flow.report.IsOpen startedAt missed := by
  rcases step with works | happens
  · cases works with
    | leave => exact isOpen.note _
    | _ => exact isOpen
  · cases happens <;> exact isOpen

theorem Crew.isOpen_of_reaches {toDo : Job -> Script S Done} {first crew : Crew S}
    (reaches : first.Reaches toDo crew) (isOpen : first.flow.report.IsOpen startedAt missed) :
    crew.flow.report.IsOpen startedAt missed := by
  induction reaches with
  | refl => exact isOpen
  | tail _ step inductionHypothesis => exact step.isOpen inductionHypothesis

namespace Shift

variable {turn : Turn S} {base : Desk S} {workers : Int} {toDo : Job -> Script S Done}
  (shift : Shift turn base workers toDo)

/-- The tickets that a shift took on and that could not be sorted out. -/
def unsorted : List Ticket :=
  Cycle.unsorted (turn.desk base) shift.rules (turn.startedAt base).instant
    (underCap turn.pace.cap shift.listed) shift.reading

theorem prepared_isOpen :
    shift.prepared.report.IsOpen (turn.startedAt base) shift.unsorted := by
  rcases shift.stages with ⟨hits, failed, sorted, jobs, sorts, _, _, prepared, _⟩
  rw [prepared]
  refine ⟨rfl, rfl, rfl, rfl, rfl, ?_⟩
  rw [unsorted, <- failed_unsorted sorts, List.length_map]
  show ((underCap turn.pace.cap shift.listed).length : Int) =
    ((underCap turn.pace.cap shift.listed).length : Int) - failed.length + failed.length
  omega

/-- The report of a shift says what was done. -/
theorem tells : shift.last.report.Tells (shift.crew.done.map Prod.snd) shift.unsorted := by
  have told := (Crew.isOpen_of_reaches shift.works shift.prepared_isOpen).collected
    (shift.crew.done.map Prod.snd)
  rw [<- conclude_report (turn.desk base) (turn.startedAt base).instant] at told
  exact told.ended _

end Shift

/-- A turn that cannot read its rules and tickets reports nothing. -/
theorem Turn.report_unread {turn : Turn S} {base : Desk S} {failure : Failure}
    (unread : (turn.readings base).1 = .error failure) : Exists fun report =>
      (turn.outcome base).1 = .ok report ∧ report.aborted = true ∧ report.IsBlank := by
  have readings : turn.readings base = (.error failure, (turn.readings base).2) :=
    Prod.ext unread rfl
  rcases @perform_fetch_error S (turn.desk base) (turn.fetching base) _ turn.pace.cap failure
    readings with ⟨scheduler, fetched⟩
  have performed := turn.perform_body base
  rw [fetched] at performed
  rw [turn.outcome_eq base performed]
  exact ⟨_, rfl, rfl, ⟨rfl, rfl, rfl, rfl, rfl, rfl, rfl, rfl⟩⟩

/-! ## Turns that are shifts -/

/-- What is noted of executions is up to the desk, with whatever stopwatch. -/
theorem recordAll_desk (turn : Turn S) (base : Desk S) (executions : List Execution) :
    recordAll (turn.desk base) executions = recordAll base executions := by
  induction executions with
  | nil => rfl
  | cons execution rest inductionHypothesis =>
      rw [recordAll, recordAll, inductionHypothesis]
      rfl

theorem execute_desk (turn : Turn S) (base : Desk S) (matchedAt : Instant) (cycleId : String)
    (job : Job) : execute (turn.desk base) matchedAt cycleId job =
      execute base matchedAt cycleId job := by
  simp only [execute, recordAll_desk]
  rfl

end Cycle

namespace Workplace

open Cycle (Job Turn)

variable {S : Type} {place : Workplace S} {engine : Engine} {turn : Turn S}

/-- A turn whose time is never up and that answers a report is what some shift comes to. -/
theorem exists_shift_of_turn (workers : Int) (prompt : turn.IsPrompt (place.desk engine))
    {rules : List Rule} {listed : List Ticket} {reading : S}
    (reads : turn.readings (place.desk engine) = (.ok (rules, listed), reading))
    {report : Report} (answers : (turn.outcome (place.desk engine)).1 = .ok report) :
    Exists fun shift : place.ShiftAt engine turn workers => shift.crew.IsFinished ∧
      shift.last.report = report ∧
      shift.last.scheduler = (turn.outcome (place.desk engine)).2.1 ∧
      shift.last.world = turn.after (place.desk engine) := by
  have does (job : Job) (state : S) : (place.toDo engine
      (turn.startedAt (place.desk engine)).instant
        (turn.cycleId (place.desk engine)) job).act.perform state =
      (Cycle.execute (turn.desk (place.desk engine)) (turn.startedAt (place.desk engine)).instant
        (turn.cycleId (place.desk engine)) job).perform state := by
    rw [Cycle.execute_desk]
    exact place.perform_toDo engine _ _ job state
  rcases Turn.exists_shift workers does
    (fun _ state late => absurd late (Bool.eq_false_iff.mp (prompt.2 state))) reads
    ⟨report, answers⟩ with ⟨shift, finished, outcome⟩
  have same := (congrArg Prod.fst outcome).trans answers
  refine ⟨shift, finished, ?_, congrArg (fun triple => triple.2.1) outcome,
    congrArg (fun triple => triple.2.2) outcome⟩
  rw [Cycle.Shift.outcome] at same
  cases ended : shift.ended.1 with
  | error failure =>
      rw [ended] at same
      cases same
  | ok _ =>
      rw [ended] at same
      exact Except.ok.inj same

end Workplace
end Triage
