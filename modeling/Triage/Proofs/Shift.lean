import Triage.Proofs.CrewEnds
import Triage.Proofs.Cycle

namespace Triage
namespace Cycle

/-!
# Turns done by a crew

A shift is a turn whose jobs are shared among several workers: its rules and tickets are fetched
and made into jobs, a crew works on the jobs, and when everybody went home the cycle is concluded.
A turn that does its jobs one after another is one of the shifts that a crew of any size can have.

What is said here holds for every desk, whatever fails there.
-/

variable {S : Type} {desk : Desk S}

/-! ## Setting out -/

/-- Sorting out answers, whatever fails at it. -/
theorem exists_sortOut (desk : Desk S) (rules : List Rule) (now : Instant) (tickets : List Ticket)
    (state : S) : Exists fun hits => Exists fun failed => Exists fun after =>
      (sortOut desk rules now tickets).perform state = (.ok (hits, failed), after) := by
  induction tickets generalizing state with
  | nil => exact ⟨[], [], state, rfl⟩
  | cons ticket rest inductionHypothesis =>
      rcases inductionHypothesis ((desk.sortOut rules ticket now).perform state).2 with
        ⟨hits, failed, after, performed⟩
      rw [sortOut, Act.perform_attempt_bind, Act.perform_bind_ok performed]
      cases ((desk.sortOut rules ticket now).perform state).1 with
      | error failure => exact ⟨_, _, _, rfl⟩
      | ok matching => exact ⟨_, _, _, rfl⟩

/-- So does deciding. -/
theorem exists_resolve (desk : Desk S) (hits : List Hit) (state : S) :
    Exists fun jobs => Exists fun after =>
      (resolve desk hits).perform state = (.ok jobs, after) := by
  induction hits generalizing state with
  | nil => exact ⟨[], state, rfl⟩
  | cons hit rest inductionHypothesis =>
      rcases inductionHypothesis ((desk.resolve hit.ticket hit.matching).perform state).2 with
        ⟨jobs, after, performed⟩
      rw [resolve, Act.perform_attempt_bind, Act.perform_bind_ok performed]
      exact ⟨_, _, rfl⟩

/-- What comes of preparing the work, stage by stage. -/
theorem perform_prepare_stages {rules : List Rule} {tickets : List Ticket} {startedAt : Instant}
    {flow : Flow S} {hits : List Hit} {failed jobs : List Job} {sorted decided : S}
    (sorts : (sortOut desk rules startedAt tickets).perform flow.world =
      (.ok (hits, failed), sorted))
    (decides : (resolve desk hits).perform sorted = (.ok jobs, decided)) :
    (prepare desk startedAt rules tickets).perform flow =
      (.ok (failed ++ jobs), ⟨decided, { flow.scheduler with phase := .executing },
        { flow.report with
          ticketsMatched := hits.length
          ticketsEvaluated := (tickets.length : Int) - failed.length }⟩) := by
  have sorted_ : ((world (S := S)).perform (sortOut desk rules startedAt tickets)).perform
      { flow with scheduler := { flow.scheduler with phase := .matching } } =
        (.ok (hits, failed), ⟨sorted, { flow.scheduler with phase := .matching }, flow.report⟩) :=
    perform_world sorts
  have decided_ : ((world (S := S)).perform (resolve desk hits)).perform
      ⟨sorted, { flow.scheduler with phase := .resolving }, { flow.report with
        ticketsMatched := hits.length
        ticketsEvaluated := (tickets.length : Int) - failed.length }⟩ =
        (.ok jobs, ⟨decided, { flow.scheduler with phase := .resolving }, { flow.report with
          ticketsMatched := hits.length
          ticketsEvaluated := (tickets.length : Int) - failed.length }⟩) :=
    perform_world decides
  rw [prepare, Act.perform_bind_ok (perform_enter _ _), Act.perform_bind_ok sorted_,
    Act.perform_bind_ok (perform_note _ _), Act.perform_bind_ok (perform_enter _ _),
    Act.perform_bind_ok decided_, Act.perform_bind_ok (perform_enter _ _), Act.perform_pure]

/-- Everything between the beginning of a cycle and the work; the answer are the jobs. -/
def setOut (desk : Desk S) (cap : Int) (startedAt : Instant) : Act (Flow S) (List Job) := do
  let (rules, tickets) <- fetch desk cap
  prepare desk startedAt rules tickets

/-- The report of a turn that set out with some rules, tickets, hits and failed jobs. -/
def Turn.preparedReport (turn : Turn S) (base : Desk S) (rules : List Rule) (listed : List Ticket)
    (hits : List Hit) (failed : List Job) : Report :=
  { (turn.opening base).report with
    ticketsDeferred := overCap turn.pace.cap listed
    rulesEvaluated := rules.length
    ticketsFetched := (underCap turn.pace.cap listed).length
    ticketsMatched := hits.length
    ticketsEvaluated := ((underCap turn.pace.cap listed).length : Int) - failed.length }

/-- A turn that reads its rules and tickets sets out, whatever fails after that. -/
theorem Turn.setsOut {turn : Turn S} {base : Desk S} {rules : List Rule} {listed : List Ticket}
    {reading : S} (reads : turn.readings base = (.ok (rules, listed), reading)) :
    Exists fun hits => Exists fun failed => Exists fun sorted => Exists fun jobs =>
      Exists fun decided => Exists fun scheduler => Exists fun start =>
        (sortOut (turn.desk base) rules (turn.startedAt base).instant
          (underCap turn.pace.cap listed)).perform reading = (.ok (hits, failed), sorted) ∧
        (resolve (turn.desk base) hits).perform sorted = (.ok jobs, decided) ∧
        (fetch (turn.desk base) turn.pace.cap).perform (turn.fetching base) =
          (.ok (rules, underCap turn.pace.cap listed), start) ∧
        (prepare (turn.desk base) (turn.startedAt base).instant rules
          (underCap turn.pace.cap listed)).perform start = (.ok (failed ++ jobs),
            ⟨decided, scheduler, turn.preparedReport base rules listed hits failed⟩) ∧
        scheduler.isStopping = turn.scheduler.isStopping := by
  have readings : (read (turn.desk base)).perform (turn.fetching base).world =
      (.ok (rules, listed), reading) := reads
  rcases perform_fetch turn.pace.cap readings with ⟨scheduler, fetched, asked⟩
  rcases exists_sortOut (turn.desk base) rules (turn.startedAt base).instant
    (underCap turn.pace.cap listed) reading with ⟨hits, failed, sorted, sorts⟩
  rcases exists_resolve (turn.desk base) hits sorted with ⟨jobs, decided, decides⟩
  refine ⟨hits, failed, sorted, jobs, decided, { scheduler with phase := .executing }, _, sorts,
    decides, fetched, (perform_prepare_stages sorts decides).trans ?_, asked⟩
  have counted : (turn.fetching base).report.ticketsDeferred + overCap turn.pace.cap listed =
      overCap turn.pace.cap listed := Int.zero_add _
  rw [preparedReport]
  simp only [counted]
  rfl

/-! ## The end -/

/-- Whatever becomes of the mark, the report says what was done. -/
theorem conclude_report (desk : Desk S) (startedAt : Instant) (done : List Done) (flow : Flow S) :
    ((conclude desk startedAt done).perform flow).2.report = collect done flow.report := by
  have marked (flow : Flow S) : ((mark desk startedAt).perform flow).2.report = flow.report := by
    rw [mark, Act.perform_look_bind]
    split
    · rfl
    · rw [Act.perform_attempt_bind]
      split
      · rfl
      · split <;> rfl
  rw [conclude, Act.perform_bind_ok (perform_enter _ _), Act.perform_bind_ok (perform_note _ _)]
  have same := marked ⟨flow.world, { flow.scheduler with phase := .recording },
    collect done flow.report⟩
  rw [Act.perform_bind]
  cases performed : (mark desk startedAt).perform ⟨flow.world,
      { flow.scheduler with phase := .recording }, collect done flow.report⟩ with
  | mk result after =>
      rw [performed] at same
      cases result with
      | error failure => exact same
      | ok _ => exact same

theorem cancelled_foldl_count (outcomes : List Outcome) (report : Report) :
    (outcomes.foldl Report.count report).cancelled = report.cancelled := by
  induction outcomes generalizing report with
  | nil => rfl
  | cons outcome rest inductionHypothesis => exact inductionHypothesis (report.count outcome)

theorem collect_cancelled (done : List Done) (report : Report) :
    (collect done report).cancelled = report.cancelled := by
  have counted := cancelled_foldl_count ((done.flatMap Done.executions).map Execution.outcome) report
  rw [List.foldl_map] at counted
  exact counted

/-! ## Shifts -/

/-- A turn whose jobs are done by a crew, as far as it has come. -/
structure Shift (turn : Turn S) (base : Desk S) (workers : Int) (toDo : Job -> Script S Done) where
  rules : List Rule
  listed : List Ticket
  reading : S
  reads : turn.readings base = (.ok (rules, listed), reading)
  jobs : List Job
  prepared : Flow S
  prepares : (setOut (turn.desk base) turn.pace.cap (turn.startedAt base).instant).perform
    (turn.fetching base) = (.ok jobs, prepared)
  crew : Crew S
  works : (Crew.start workers jobs prepared).Reaches toDo crew

namespace Shift

variable {turn : Turn S} {base : Desk S} {workers : Int} {toDo : Job -> Script S Done}
  (shift : Shift turn base workers toDo)

/-- The cycle after its conclusion. -/
def ended : Except Failure Unit × Flow S :=
  (conclude (turn.desk base) (turn.startedAt base).instant
    (shift.crew.done.map Prod.snd)).perform shift.crew.flow

/-- The cycle after its end. -/
def last : Flow S := finish (base.clock shift.ended.2.world) shift.ended.2

/-- What comes of the shift. -/
def outcome : Except Failure Report × Scheduler × S :=
  (shift.ended.1.map fun _ => shift.last.report, shift.last.scheduler, shift.last.world)

/-- How the jobs of a shift come about. -/
theorem stages : Exists fun hits => Exists fun failed => Exists fun sorted => Exists fun jobs =>
    (Cycle.sortOut (turn.desk base) shift.rules (turn.startedAt base).instant
      (underCap turn.pace.cap shift.listed)).perform shift.reading =
        (.ok (hits, failed), sorted) ∧
    (Cycle.resolve (turn.desk base) hits).perform sorted = (.ok jobs, shift.prepared.world) ∧
    shift.jobs = failed ++ jobs ∧
    shift.prepared.report = turn.preparedReport base shift.rules shift.listed hits failed ∧
    shift.prepared.scheduler.isStopping = turn.scheduler.isStopping := by
  rcases Turn.setsOut shift.reads with
    ⟨hits, failed, sorted, jobs, decided, scheduler, start, sorts, decides, fetched, prepares, asked⟩
  have prepared := shift.prepares
  rw [setOut, Act.perform_bind_ok fetched] at prepared
  rcases Prod.mk.inj (prepares.symm.trans prepared) with ⟨made, flow⟩
  refine ⟨hits, failed, sorted, jobs, sorts, ?_, (Except.ok.inj made).symm, ?_, ?_⟩
  · rw [← flow]
    exact decides
  · rw [← flow]
  · rw [← flow]
    exact asked

/-- The report of a shift says what was left and what was done. -/
theorem report_eq : shift.last.report = { collect (shift.crew.done.map Prod.snd)
      (Crew.tally shift.prepared.report shift.crew.left) with
    finishedAt := some (base.clock shift.ended.2.world) } := by
  have accounts := (Crew.start_accounts workers shift.jobs shift.prepared).reaches shift.works
  have reported : shift.ended.2.report = collect (shift.crew.done.map Prod.snd)
      (Crew.tally shift.prepared.report shift.crew.left) :=
    (conclude_report _ _ _ _).trans (congrArg _ accounts.report)
  rw [← reported]
  rfl

/-- What was left and what was over the cap are the tickets that the report defers. -/
theorem ticketsDeferred_eq : shift.last.report.ticketsDeferred =
    overCap turn.pace.cap shift.listed + shift.crew.left.length := by
  rcases shift.stages with ⟨_, _, _, _, _, _, _, reported, _⟩
  have deferred := congrArg Report.ticketsDeferred reported
  rw [report_eq]
  refine (collect_eq _ _).1.trans ?_
  show shift.prepared.report.ticketsDeferred + _ = _
  rw [deferred]
  rfl

/-- A shift was cancelled if jobs were left since somebody asked to stop. -/
theorem cancelled_iff : shift.last.report.cancelled = true <->
    Exists fun job => (job, Verdict.stopped) ∈ shift.crew.left := by
  rcases shift.stages with ⟨_, _, _, _, _, _, _, reported, _⟩
  have fresh : shift.prepared.report.cancelled = false := congrArg Report.cancelled reported
  have cancelled : shift.last.report.cancelled =
      (shift.prepared.report.cancelled || shift.crew.left.any fun job => job.2 == .stopped) := by
    rw [report_eq]
    exact collect_cancelled _ _
  rw [cancelled, fresh, Bool.false_or, List.any_eq_true]
  constructor
  · rintro ⟨⟨job, verdict⟩, inside, same⟩
    cases beq_iff_eq.mp same
    exact ⟨job, inside⟩
  · rintro ⟨job, inside⟩
    exact ⟨_, inside, rfl⟩

end Shift

/-- A turn that reads its rules and tickets and does its jobs one after another is a shift. -/
theorem Turn.exists_shift {turn : Turn S} {base : Desk S} {toDo : Job -> Script S Done}
    (workers : Int) {rules : List Rule} {listed : List Ticket} {reading : S}
    (does : forall job state, (toDo job).act.perform state =
      (execute (turn.desk base) (turn.startedAt base).instant (turn.cycleId base) job).perform state)
    (stays : forall job state, turn.isLate base state = true ->
      turn.isLate base ((execute (turn.desk base) (turn.startedAt base).instant (turn.cycleId base)
        job).perform state).2 = true)
    (reads : turn.readings base = (.ok (rules, listed), reading))
    (answers : Exists fun report => (turn.outcome base).1 = .ok report) :
    Exists fun shift : Shift turn base workers toDo =>
      shift.crew.IsFinished ∧ shift.outcome = turn.outcome base := by
  rcases Turn.setsOut reads with
    ⟨hits, failed, sorted, jobs, decided, scheduler, start, sorts, decides, fetched, prepares, _⟩
  generalize known : (⟨decided, scheduler, turn.preparedReport base rules listed hits failed⟩ :
    Flow S) = prepared at prepares
  have named : prepared.report.cycleId = turn.cycleId base := by
    rw [← known]
    rfl
  have goes : (body (turn.desk base) turn.pace.cap (turn.startedAt base).instant
      (turn.isLate base)).perform (turn.opening base) =
        ((work (turn.desk base) (turn.startedAt base).instant (turn.isLate base)
          (failed ++ jobs)) >>= conclude (turn.desk base) (turn.startedAt base).instant).perform
            prepared := by
    have attempted : (fetch (turn.desk base) turn.pace.cap).attempt.perform (turn.fetching base) =
        (.ok (.ok (rules, underCap turn.pace.cap listed)), start) := by
      rw [Act.perform_attempt, fetched]
    rw [body, Act.perform_bind_ok (turn.perform_enter_fetching base),
      Act.perform_bind_ok attempted]
    simp only
    rw [process_eq, Act.perform_bind_ok prepares]
  rcases answers with ⟨report, answered⟩
  cases worked : (work (turn.desk base) (turn.startedAt base).instant (turn.isLate base)
      (failed ++ jobs)).perform prepared with
  | mk result after =>
      cases result with
      | error failure =>
          rw [Act.perform_bind_error worked] at goes
          have broken := congrArg Prod.fst (turn.outcome_eq base goes)
          rw [answered] at broken
          cases broken
      | ok done =>
          rcases Crew.exists_of_work toDo workers does stays named worked with
            ⟨crew, reaches, finished, flow, all⟩
          rw [Act.perform_bind_ok worked] at goes
          refine ⟨⟨rules, listed, reading, reads, failed ++ jobs, prepared, ?_, crew, reaches⟩,
            finished, ?_⟩
          · rw [setOut, Act.perform_bind_ok fetched]
            exact prepares
          · have concluded := goes.trans (Prod.mk.eta).symm
            refine Eq.trans ?_ (turn.outcome_eq base concluded).symm
            rw [Shift.outcome, Shift.last, Shift.ended]
            simp only [flow, all]
            rfl

end Cycle
end Triage
