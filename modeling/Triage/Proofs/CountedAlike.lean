import Triage.Proofs.Beginning
import Triage.Proofs.Counters
import Triage.Proofs.Logged

namespace Triage

/-!
# Reports, metrics and the trail count the same

Every execution is counted in three places: in the report of its cycle, among the metrics of the
engine, and as a row of the trail.  The report is made when the crew went home, the metrics take
their numbers from the report, and each row is written by a worker in the middle of its job, if it can
be written at all.  A cycle that is given up counts in none of these places.

After any run of cycles, with whatever happens in between, the three agree.  What is carried along
the run is a list of the outcomes that the rows of the trail have.
-/

open Cycle (Job Done Turn Crew)
open Database (ExecutionRow)

namespace Trail

/-- The rows of a trail have these outcomes, in this order. -/
def HasOutcomes (rows : Option (List ExecutionRow)) (outcomes : List Outcome) : Prop :=
  rows.map (List.map ExecutionRow.outcome) =
    some ((outcomes.map Outcome.name).map Database.Cell.text)

theorem outcome_of_ofExecution {execution : Execution} {row : ExecutionRow}
    (written : ExecutionRow.ofExecution execution = .ok row) :
    row.outcome = .text execution.outcome.name := by
  rcases Result.bind_eq_ok_iff.mp written with ⟨version, _, rest⟩
  cases rest
  rfl

/-- With executions a trail gains their outcomes. -/
theorem HasOutcomes.gained {before after : Option (List ExecutionRow)} {outcomes : List Outcome}
    {executions : List Execution} (has : HasOutcomes before outcomes)
    (gained : Gained executions before after) :
    HasOutcomes after (outcomes ++ executions.map Execution.outcome) := by
  rcases gained with ⟨added, written, rfl⟩
  rcases Option.map_eq_some_iff.mp has with ⟨rows, rfl, old⟩
  have new : added.map ExecutionRow.outcome =
      ((executions.map Execution.outcome).map Outcome.name).map Database.Cell.text := by
    have each := Result.forall₂_of_mapM_eq_ok written
    clear written
    induction each with
    | nil => rfl
    | cons first _ inductionHypothesis =>
        rw [List.map_cons, inductionHypothesis, outcome_of_ofExecution first]
        rfl
  simp only [HasOutcomes, Option.map_some, List.map_append, old, new]

/-- Counting by outcome comes to the outcomes of all rows. -/
theorem HasOutcomes.counted {world : World} {outcomes : List Outcome} (calm : world.IsCalm)
    (has : HasOutcomes world.trailRows outcomes) :
    (Engine.trail.countByOutcome.perform world).1 = .ok (Tally.of outcomes) := by
  rcases Option.map_eq_some_iff.mp has with ⟨rows, stored, written⟩
  have all : rows.filter (fun row =>
      Database.ExecutionTable.Filter.admits (wanted none) row.ruleId) = rows :=
    List.filter_eq_self.mpr fun _ _ => rfl
  exact perform_countByOutcome calm stored ((congrArg _ all).trans written)

end Trail

namespace Workplace

variable {S : Type}

/-! ## Runs of cycles -/

/-- What there is to say of a cycle afterwards: its report, the jobs that were done, and the tickets
that could not be sorted out. -/
structure Entry where
  report : Report
  done : List Done
  unsorted : List Ticket

/-- A point of a run: nothing goes on, or a crew is at the jobs of a turn, some tickets of which could
not be sorted out. -/
inductive Point (S : Type) where
  | idle (scheduler : Scheduler) (state : S)
  | atWork (turn : Turn S) (unsorted : List Ticket) (crew : Crew S)

section Runs

variable (place : Workplace S) (engine : Engine)

/-- The end of a cycle whose crew went home. -/
def lastOf (turn : Turn S) (crew : Crew S) : Cycle.Flow S :=
  let ended := ((Cycle.conclude (turn.desk (place.desk engine))
    (turn.startedAt (place.desk engine)).instant (crew.done.map Prod.snd)).perform crew.flow).2
  Cycle.finish ((place.desk engine).clock ended.world) ended

/--
Cycles one after another, and what there is to say of them, the oldest first.

A cycle is given up, or a crew sets out, works in whatever order, and the cycle is concluded when
everybody went home.  Whatever else happens, during a cycle or between two, does not touch the trail
and counts no executions.
-/
inductive Ran (fresh : Scheduler) (first : S) : List Entry -> Point S -> Prop
  | start : Ran fresh first [] (.idle fresh first)
  | giveUp {entries : List Entry} {turn : Turn S} {failure : Failure} {report : Report} :
      Ran fresh first entries (.idle turn.scheduler turn.state) ->
      (turn.readings (place.desk engine)).1 = .error failure ->
      (turn.outcome (place.desk engine)).1 = .ok report ->
      Ran fresh first (entries ++ [⟨report, [], []⟩])
        (.idle (turn.outcome (place.desk engine)).2.1 (turn.after (place.desk engine)))
  | setOut {entries : List Entry} {turn : Turn S} {workers : Int}
      (shift : place.ShiftAt engine turn workers) :
      Ran fresh first entries (.idle turn.scheduler turn.state) ->
      Ran fresh first entries
        (.atWork turn shift.unsorted (Crew.start workers shift.jobs shift.prepared))
  | work {entries : List Entry} {turn : Turn S} {unsorted : List Ticket} {crew next : Crew S} :
      Ran fresh first entries (.atWork turn unsorted crew) ->
      Crew.Step (place.toDo engine (turn.startedAt (place.desk engine)).instant
        (turn.cycleId (place.desk engine))) crew next ->
      Ran fresh first entries (.atWork turn unsorted next)
  | conclude {entries : List Entry} {turn : Turn S} {unsorted : List Ticket} {crew : Crew S} :
      Ran fresh first entries (.atWork turn unsorted crew) -> crew.IsFinished ->
      Ran fresh first
        (entries ++ [⟨(place.lastOf engine turn crew).report, crew.done.map Prod.snd, unsorted⟩])
        (.idle (place.lastOf engine turn crew).scheduler (place.lastOf engine turn crew).world)
  | between {entries : List Entry} {scheduler later : Scheduler} {state after : S} :
      Ran fresh first entries (.idle scheduler state) -> place.IsReady engine after ->
      place.trailOf after = place.trailOf state ->
      later.metrics.executionsOf = scheduler.metrics.executionsOf ->
      Ran fresh first entries (.idle later after)
  | meanwhile {entries : List Entry} {turn : Turn S} {unsorted : List Ticket} {crew : Crew S}
      {after : S} :
      Ran fresh first entries (.atWork turn unsorted crew) -> place.IsReady engine after ->
      place.trailOf after = place.trailOf crew.flow.world ->
      Ran fresh first entries
        (.atWork turn unsorted { crew with flow := { crew.flow with world := after } })

end Runs

/-! ## Sums over a run -/

/-- What the cycles that were not given up report of an outcome. -/
def reported (entries : List Entry) (outcome : Outcome) : Int :=
  ((entries.filter fun entry => !entry.report.aborted).map fun entry =>
    entry.report.counted outcome).sum

/-- All executions that cycles report. -/
def allReported (entries : List Entry) : Int :=
  (entries.map fun entry => entry.report.outcomes.total).sum

/-- All executions that cycles report as missing from the trail. -/
def allMissed (entries : List Entry) : Int :=
  (entries.map fun entry => entry.report.auditFailures).sum

/-- An entry of a cycle that was given up is blank, and any other one says what was done. -/
def Entry.IsRight (entry : Entry) : Prop :=
  if entry.report.aborted then entry.report.IsBlank
  else entry.report.Tells entry.done entry.unsorted

/-- Reports, counters and rows agree. -/
structure Agree (entries : List Entry) (counters : Outcome -> Quantity)
    (rows : Option (List ExecutionRow)) : Prop where
  right : forall entry, entry ∈ entries -> entry.IsRight
  counters : forall outcome, counters outcome = .whole (reported entries outcome)
  rows : Exists fun outcomes => Trail.HasOutcomes rows outcomes ∧
    (outcomes.length : Int) + allMissed entries = allReported entries

namespace Agree

variable {entries : List Entry} {counters later : Outcome -> Quantity}
  {rows after : Option (List ExecutionRow)}

theorem right_append (agree : Agree entries counters rows) {entry : Entry}
    (right : entry.IsRight) : forall one, one ∈ entries ++ [entry] -> one.IsRight := by
  intro one member
  rcases List.mem_append.mp member with old | new
  · exact agree.right one old
  · rw [List.mem_singleton.mp new]
    exact right

/-- A cycle that is given up adds to none of the sums. -/
theorem blank (agree : Agree entries counters rows) {report : Report}
    (aborted : report.aborted = true) (blank : report.IsBlank) :
    Agree (entries ++ [⟨report, [], []⟩]) counters rows := by
  rcases agree.rows with ⟨outcomes, has, sum⟩
  refine ⟨agree.right_append ?_, fun outcome => ?_, outcomes, has, ?_⟩
  · rw [Entry.IsRight, if_pos aborted]
    exact blank
  · rw [agree.counters outcome, reported, reported, List.filter_append]
    simp [aborted]
  · have none_ : report.outcomes.total = 0 := by
      rw [blank.outcomes]
      rfl
    simp only [allMissed, allReported, List.map_append, List.sum_append, List.map_cons,
      List.map_nil, List.sum_cons, List.sum_nil, blank.auditFailures, none_]
    simp only [allMissed, allReported] at sum
    omega

/-- A cycle that completes adds its executions to all of them. -/
theorem told (agree : Agree entries counters rows) {report : Report} {done : List Done}
    {unsorted : List Ticket} {logged : List Execution} (told : report.Tells done unsorted)
    (gained : Trail.Gained logged rows after)
    (count : logged.length + (done.map Done.auditFailures).sum =
      (done.flatMap Done.executions).length)
    (counts : forall outcome m, counters outcome = .whole m ->
      later outcome = .whole (m + report.counted outcome)) :
    Agree (entries ++ [⟨report, done, unsorted⟩]) later after := by
  rcases agree.rows with ⟨outcomes, has, sum⟩
  refine ⟨agree.right_append ?_, fun outcome => ?_, _, has.gained gained, ?_⟩
  · rw [Entry.IsRight, if_neg (Bool.eq_false_iff.mp told.completed)]
    exact told
  · rw [counts outcome _ (agree.counters outcome), reported, reported, List.filter_append]
    simp [told.completed]
  · have all : report.outcomes.total = (((done.flatMap Done.executions).length : Nat) : Int) := by
      rw [told.outcomes, Tally.total_of, List.length_map]
    simp only [allMissed, allReported, List.map_append, List.sum_append, List.map_cons,
      List.map_nil, List.sum_cons, List.sum_nil, told.auditFailures, all, List.length_append,
      List.length_map]
    simp only [allMissed, allReported] at sum
    omega

end Agree

/-! ## What is carried along a run -/

variable {place : Workplace S} {engine : Engine} {entries : List Entry} {turn : Turn S}
  {unsorted : List Ticket} {workers : Int} {crew next : Crew S}

/-- At work, the sums are those of the cycles before; the trail has what the crew has put there,
behind earlier rows, and nothing is counted yet. -/
structure IsUncounted (place : Workplace S) (engine : Engine) (entries : List Entry)
    (turn : Turn S) (unsorted : List Ticket) (crew : Crew S) (rows : Option (List ExecutionRow)) :
    Prop where
  agree : Agree entries (Cycle.counters crew.flow) rows
  logs : Exists fun shares => Exists fun sheets => crew.Logs (place.IsReady engine)
    place.SparesRules place.trailOf rows shares sheets
  isOpen : crew.flow.report.IsOpen (turn.startedAt (place.desk engine)) unsorted
  utc : (turn.startedAt (place.desk engine)).offset = some 0

/-- Between cycles everything agrees; at work everything will when the crew is done. -/
def Point.IsGood (place : Workplace S) (engine : Engine) (entries : List Entry) : Point S -> Prop
  | idle scheduler state => place.IsReady engine state ∧
      Agree entries scheduler.metrics.executionsOf (place.trailOf state)
  | atWork turn unsorted crew => Exists (place.IsUncounted engine entries turn unsorted crew)

/-- Between two times of day the distance is known. -/
theorem exists_duration {report : Report} {finishedAt : Stamp}
    (begins : report.startedAt.offset = some 0) (ends : finishedAt.offset = some 0) :
    Exists fun duration =>
      Report.duration { report with finishedAt := some finishedAt } = .ok duration := by
  rw [Report.duration]
  simp only [Stamp.distanceTo, Stamp.distanceTo?, begins, ends]
  exact ⟨_, rfl⟩

section Sound

variable (sound : place.IsSound engine)

include sound

theorem startedAt_utc (ready : place.IsReady engine turn.state) :
    (turn.startedAt (place.desk engine)).offset = some 0 := by
  have begun := Engine.begun_standing engine sound.lawful place.store turn
  exact (Engine.IsReady.of_standing ready begun).utc

theorem Point.IsGood.giveUp {failure : Failure} {report : Report}
    (good : (Point.idle turn.scheduler turn.state).IsGood place engine entries)
    (unread : (turn.readings (place.desk engine)).1 = .error failure)
    (answers : (turn.outcome (place.desk engine)).1 = .ok report) :
    (Point.idle (turn.outcome (place.desk engine)).2.1
      (turn.after (place.desk engine))).IsGood place engine (entries ++ [⟨report, [], []⟩]) := by
  rcases good with ⟨ready, agree⟩
  rcases unread_spares sound ready unread with ⟨still, spares⟩
  rcases Turn.report_unread unread with ⟨other, answered, aborted, blank⟩
  cases Except.ok.inj (answered.symm.trans answers)
  refine ⟨still, ?_⟩
  rw [Turn.counters_unread unread, show place.trailOf (turn.after (place.desk engine)) = _ from
    spares.trail]
  exact agree.blank aborted blank

theorem Point.IsGood.setOut
    (good : (Point.idle turn.scheduler turn.state).IsGood place engine entries)
    (shift : place.ShiftAt engine turn workers) :
    (Point.atWork turn shift.unsorted (Crew.start workers shift.jobs shift.prepared)).IsGood place
      engine entries := by
  rcases good with ⟨ready, agree⟩
  have counters : Cycle.counters shift.prepared = turn.scheduler.metrics.executionsOf := by
    have kept := @Cycle.setOut_counters S (turn.desk (place.desk engine)) turn.pace.cap
      (turn.startedAt (place.desk engine)).instant (turn.fetching (place.desk engine))
    rw [shift.prepares] at kept
    exact kept
  refine ⟨_, ?_, ⟨_, _, (prepared_logs sound ready shift).2⟩, shift.prepared_isOpen,
    startedAt_utc sound ready⟩
  rw [<- counters] at agree
  exact agree

theorem IsUncounted.work {rows : Option (List ExecutionRow)}
    (uncounted : place.IsUncounted engine entries turn unsorted crew rows)
    (step : Crew.Step (place.toDo engine (turn.startedAt (place.desk engine)).instant
      (turn.cycleId (place.desk engine))) crew next) :
    place.IsUncounted engine entries turn unsorted next rows := by
  rcases uncounted.logs with ⟨_, _, logs⟩
  rcases step_logs sound logs step with ⟨_, goesOn⟩
  refine ⟨?_, goesOn, step.isOpen uncounted.isOpen, uncounted.utc⟩
  rw [step.counters]
  exact uncounted.agree

/-- With the end of a cycle its executions are counted. -/
theorem IsUncounted.conclude {rows : Option (List ExecutionRow)}
    (uncounted : place.IsUncounted engine entries turn unsorted crew rows)
    (finished : crew.IsFinished) :
    (Point.idle (place.lastOf engine turn crew).scheduler
      (place.lastOf engine turn crew).world).IsGood place engine (entries ++
        [⟨(place.lastOf engine turn crew).report, crew.done.map Prod.snd, unsorted⟩]) := by
  rcases uncounted.logs with ⟨_, _, logs⟩
  rcases logs.finished finished with ⟨logged, _, count, gained⟩
  rcases conclude_alike sound logs.world (turn.startedAt (place.desk engine)).instant
    (crew.done.map Prod.snd) with ⟨_, alike⟩
  have still : place.IsReady engine (place.lastOf engine turn crew).world :=
    Engine.IsReady.alike logs.world alike
  have trail : place.trailOf (place.lastOf engine turn crew).world =
      place.trailOf crew.flow.world := (alike logs.world.calm).2.2.2.1
  have collected := uncounted.isOpen.collected (crew.done.map Prod.snd)
  have begins := uncounted.isOpen.startedAt_collected (crew.done.map Prod.snd)
  rw [<- Cycle.conclude_report (turn.desk (place.desk engine))
    (turn.startedAt (place.desk engine)).instant] at collected begins
  rcases exists_duration (begins ▸ uncounted.utc) still.utc with ⟨duration, lasted⟩
  have told := collected.ended (some ((place.desk engine).clock
    (place.lastOf engine turn crew).world))
  refine ⟨still, ?_⟩
  rw [<- trail] at gained
  refine uncounted.agree.told told gained ?_ fun outcome m before => ?_
  · rw [List.map_map, List.flatMap_map]
    exact count
  · have kept := @Cycle.conclude_counters S (turn.desk (place.desk engine))
      (turn.startedAt (place.desk engine)).instant (crew.done.map Prod.snd) crew.flow
    exact Metrics.executionsOf_recordCycle ((congrFun kept outcome).trans before) told.completed
      lasted told.outcomes

omit sound in
/-- What others do is no business of the crew as long as they leave the trail alone. -/
theorem IsUncounted.meanwhile {rows : Option (List ExecutionRow)} {after : S}
    (uncounted : place.IsUncounted engine entries turn unsorted crew rows)
    (ready : place.IsReady engine after)
    (same : place.trailOf after = place.trailOf crew.flow.world) :
    place.IsUncounted engine entries turn unsorted
      { crew with flow := { crew.flow with world := after } } rows := by
  rcases uncounted with ⟨agree, ⟨shares, sheets, logs⟩, isOpen, utc⟩
  exact ⟨agree, ⟨shares, sheets, logs.elsewhere ready same⟩, isOpen, utc⟩

theorem Ran.isGood {fresh : Scheduler} {first : S} {point : Point S}
    (ran : place.Ran engine fresh first entries point) (ready : place.IsReady engine first)
    (noTrail : place.trailOf first = some []) {window : Int}
    (noMetrics : fresh.metrics = .empty window) : point.IsGood place engine entries := by
  induction ran with
  | start =>
      refine ⟨ready, fun _ inside => absurd inside List.not_mem_nil, fun outcome => ?_, [], ?_, rfl⟩
      · rw [noMetrics]
        rfl
      · rw [noTrail]
        rfl
  | giveUp _ unread answers inductionHypothesis =>
      exact inductionHypothesis.giveUp sound unread answers
  | setOut shift _ inductionHypothesis => exact inductionHypothesis.setOut sound shift
  | work _ step inductionHypothesis =>
      rcases inductionHypothesis with ⟨rows, uncounted⟩
      exact ⟨rows, uncounted.work sound step⟩
  | conclude _ finished inductionHypothesis =>
      rcases inductionHypothesis with ⟨rows, uncounted⟩
      exact uncounted.conclude sound finished
  | between _ ready same counters inductionHypothesis =>
      refine ⟨ready, ?_⟩
      rw [same, counters]
      exact inductionHypothesis.2
  | meanwhile _ ready same inductionHypothesis =>
      rcases inductionHypothesis with ⟨rows, uncounted⟩
      exact ⟨rows, uncounted.meanwhile ready same⟩

end Sound

/-! ## The three places -/

/-- What the report of a completed cycle says of its tickets, jobs and rules. -/
structure Entry.Lists (entry : Entry) : Prop where
  failed : entry.report.ticketsFailed = ((entry.done.filter fun done =>
    done.executions.any fun execution => execution.outcome == .failed).length : Int)
  sorted : entry.report.executedRuleIds.Pairwise fun a b => a < b
  applied : forall id, id ∈ entry.report.executedRuleIds ↔ Exists fun execution =>
    execution ∈ entry.done.flatMap Done.executions ∧ execution.ruleId = id ∧
      execution.outcome = .applied
  fetched : entry.report.ticketsFetched =
    entry.report.ticketsEvaluated + (entry.unsorted.length : Int)

theorem Entry.IsRight.lists {entry : Entry} (right : entry.IsRight)
    (completed : entry.report.aborted = false) : entry.Lists := by
  rw [IsRight, if_neg (Bool.eq_false_iff.mp completed)] at right
  refine ⟨right.failed, ?_, fun id => ?_, right.fetched⟩
  · rw [right.rules]
    exact Cycle.executedIds_sorted entry.done
  · rw [right.rules]
    exact Cycle.mem_executedIds

/--
Reports, metrics and the trail count the same executions.

After any run of cycles, given up or completed, with jobs that fail, jobs that are left, and rows that
cannot be written, the counter of each outcome is the sum of what the cycles that were not given up
report of it; and the trail counts all executions that are reported but for those that are reported
as missing there.  The report of a completed cycle tells how many jobs have an execution that failed,
lists each rule with an execution that was applied once and in alphabetical order, and tells the
tickets that could not be sorted out from the others.  A cycle that was given up reports nothing.
-/
theorem reports_agree (sound : place.IsSound engine) {fresh last : Scheduler} {first after : S}
    {window : Int} (ready : place.IsReady engine first)
    (noTrail : (place.part.get first).trailRows = some [])
    (noMetrics : fresh.metrics = .empty window)
    (ran : place.Ran engine fresh first entries (.idle last after)) :
    (forall outcome, last.metrics.executionsOf outcome =
      .whole ((entries.filter fun entry => !entry.report.aborted).map fun entry =>
        entry.report.counted outcome).sum) ∧
    (Exists fun tally =>
      (Engine.trail.countByOutcome.perform (place.part.get after)).1 = .ok tally ∧
      tally.total = (entries.map fun entry => entry.report.outcomes.total).sum -
        (entries.map fun entry => entry.report.auditFailures).sum) ∧
    (forall entry, entry ∈ entries -> entry.report.aborted = false -> entry.Lists) ∧
    (forall entry, entry ∈ entries -> entry.report.aborted = true -> entry.report.IsBlank) := by
  rcases ran.isGood sound ready noTrail noMetrics with ⟨still, agree⟩
  rcases agree.rows with ⟨outcomes, has, sum⟩
  refine ⟨agree.counters, ⟨_, has.counted still.calm, ?_⟩, fun entry member completed =>
    (agree.right entry member).lists completed, fun entry member aborted => ?_⟩
  · rw [Tally.total_of]
    simp only [allMissed, allReported] at sum
    omega
  · have right := agree.right entry member
    rw [Entry.IsRight, if_pos aborted] at right
    exact right

/-! ## Turns as parts of a run -/

/-- A shift is a part of a run. -/
theorem Ran.shift {fresh : Scheduler} {first : S}
    (ran : place.Ran engine fresh first entries (.idle turn.scheduler turn.state))
    (shift : place.ShiftAt engine turn workers) (finished : shift.crew.IsFinished) :
    place.Ran engine fresh first
      (entries ++ [⟨shift.last.report, shift.crew.done.map Prod.snd, shift.unsorted⟩])
      (.idle shift.last.scheduler shift.last.world) := by
  have works {next : Crew S} (reaches : (Crew.start workers shift.jobs shift.prepared).Reaches
      (place.toDo engine (turn.startedAt (place.desk engine)).instant
        (turn.cycleId (place.desk engine))) next) :
      place.Ran engine fresh first entries (.atWork turn shift.unsorted next) := by
    induction reaches with
    | refl => exact .setOut shift ran
    | tail _ step inductionHypothesis => exact .work inductionHypothesis step
  exact .conclude (works shift.works) finished

/-- So is a turn that works off its jobs one after another. -/
theorem Ran.nextTurn {fresh : Scheduler} {first : S} {report : Report} {readings : List Rule × List Ticket}
    (ran : place.Ran engine fresh first entries (.idle turn.scheduler turn.state))
    (prompt : turn.IsPrompt (place.desk engine))
    (reads : (turn.readings (place.desk engine)).1 = .ok readings)
    (answers : (turn.outcome (place.desk engine)).1 = .ok report) :
    Exists fun entry => entry.report = report ∧ place.Ran engine fresh first (entries ++ [entry])
      (.idle (turn.outcome (place.desk engine)).2.1 (turn.after (place.desk engine))) := by
  have read : turn.readings (place.desk engine) = (.ok (readings.1, readings.2), _) :=
    Prod.ext reads rfl
  rcases exists_shift_of_turn 1 prompt read answers with ⟨shift, finished, same, ended, after⟩
  rw [<- ended, <- after]
  exact ⟨_, same, ran.shift shift finished⟩

/-! ## A row that cannot be written -/

/-- The failure of a trail for which there is no room any more. -/
def fullFailure : Failure :=
  .raised .audit "Failed to store execution record: disk is full" (some Trail.component) []

/-- A workplace at which nothing can be recorded. -/
def forgetful : Workplace World :=
  { own Sample.engine with record := fun _ => .ofResult (.error fullFailure) }

theorem forgetful_isSound : forgetful.IsSound Sample.engine := by
  have base := own_isSound Sample.engine
  exact ⟨base.lawful, base.hampers, base.dispatch, base.sortOut, base.resolve, base.enter,
    fun _ _ => .inr ⟨⟨_, rfl, rfl⟩, rfl⟩, base.markExecuted⟩

/-- A turn there, in which a rule is applied to the ticket. -/
def forgetfulTurn : Turn World := Sample.turn (Sample.world [Sample.early])

/-- The cycle reports the execution, which is counted but missing in the trail. -/
theorem reports_agree_after_one_cycle : Exists fun entries =>
    forgetful.Ran Sample.engine Scheduler.initial (Sample.world [Sample.early]) entries
      (.idle (forgetfulTurn.outcome (forgetful.desk Sample.engine)).2.1
        (forgetfulTurn.after (forgetful.desk Sample.engine))) ∧
    (entries.map fun entry => entry.report.counted .applied) = [1] ∧
    (entries.map fun entry => entry.report.auditFailures) = [1] ∧
    (forgetfulTurn.outcome (forgetful.desk Sample.engine)).2.1.metrics.executionsOf .applied =
      .whole 1 ∧
    (Exists fun tally => (Engine.trail.countByOutcome.perform
      (forgetfulTurn.after (forgetful.desk Sample.engine))).1 = .ok tally ∧ tally.total = 0) := by
  have reported : (forgetfulTurn.outcome (forgetful.desk Sample.engine)).1.toOption.map
      (fun report => (report.outcomes.total, report.auditFailures, report.counted .applied,
        report.aborted)) = some (1, 1, 1, false) := by
    decide +kernel
  have read : (forgetfulTurn.readings (forgetful.desk Sample.engine)).1.toOption.isSome = true := by
    decide +kernel
  rcases Option.map_eq_some_iff.mp reported with ⟨report, answered, numbers⟩
  simp only [Prod.mk.injEq] at numbers
  rcases numbers with ⟨total, missed, applied, completed⟩
  rcases Option.isSome_iff_exists.mp read with ⟨readings, found⟩
  rcases Ran.nextTurn (.start : forgetful.Ran Sample.engine forgetfulTurn.scheduler
      forgetfulTurn.state [] _) (Sample.prompt _ _) (Result.toOption_eq_some_iff.mp found)
      (Result.toOption_eq_some_iff.mp answered) with ⟨entry, rfl, ran⟩
  rcases reports_agree forgetful_isSound (Sample.isReady_world _) rfl (rfl :
    forgetfulTurn.scheduler.metrics = .empty _) ran with ⟨counters, ⟨tally, told, sum⟩, _⟩
  refine ⟨[entry], ran, by simp [applied], by simp [missed], ?_, tally, told, ?_⟩
  · simpa [completed, applied] using counters .applied
  · simpa [total, missed] using sum

end Workplace
end Triage
