import Mathlib.Algebra.GroupWithZero.Nat
import Mathlib.Data.List.Sublists
import Triage.Cycle
import Triage.Proofs.Act
import Triage.Proofs.Resolution

namespace Triage

/-!
# The stages of a cycle

A cycle that fetched its rules and tickets makes jobs of them, works on the jobs, and notes what
was done.  Of the jobs in turn each is done or left; which ones are left is up to the clock and to
whoever asks to stop, so nothing is assumed about it, but the report counts them.

The stages are taken apart here for any desk that sorts out and decides without failing, and for
states on which its jobs can be done.  That the jobs of an engine are such is shown elsewhere.

A turn is a cycle that is to run, together with everything that is not up to the desk: the pace,
the state from which it starts, and a clock for lengths of time that may show anything.  A turn
that cannot read its rules and tickets is given up; every other one goes through all its stages,
provided that its jobs can be done.
-/

namespace Report

@[simp]
theorem ticketsDeferred_foldl_count (outcomes : List Outcome) (report : Report) :
    (outcomes.foldl count report).ticketsDeferred = report.ticketsDeferred := by
  induction outcomes generalizing report with
  | nil => rfl
  | cons outcome rest inductionHypothesis => exact inductionHypothesis (report.count outcome)

@[simp]
theorem aborted_foldl_count (outcomes : List Outcome) (report : Report) :
    (outcomes.foldl count report).aborted = report.aborted := by
  induction outcomes generalizing report with
  | nil => rfl
  | cons outcome rest inductionHypothesis => exact inductionHypothesis (report.count outcome)

end Report

namespace Cycle

variable {S A : Type} {desk : Desk S}

/-- An act on the state of a cycle leaves the rest of the cycle. -/
theorem perform_world {act : Act S A} {flow : Flow S} {result : Except Failure A} {after : S}
    (performed : act.perform flow.world = (result, after)) :
    ((world (S := S)).perform act).perform flow = (result, { flow with world := after }) := by
  have seen : act.perform (world.get flow) = (result, after) := performed
  rw [Part.perform_perform, seen]
  rfl

theorem perform_note (change : Report -> Report) (flow : Flow S) :
    (note change).perform flow = (.ok (), { flow with report := change flow.report }) := rfl

theorem perform_remember (change : Scheduler -> Scheduler) (flow : Flow S) :
    (remember change).perform flow =
      (.ok (), { flow with scheduler := change flow.scheduler }) := rfl

theorem perform_enter (phase : Phase) (flow : Flow S) :
    (enter phase).perform flow =
      (.ok (), { flow with scheduler := { flow.scheduler with phase } }) := rfl

/-! ## What was done is collected -/

theorem collect_eq (done : List Done) (report : Report) :
    (collect done report).ticketsDeferred = report.ticketsDeferred ∧
      (collect done report).aborted = report.aborted ∧
      (collect done report).auditFailures =
        done.foldl (fun count job => count + (job.auditFailures : Int)) report.auditFailures := by
  have counted : (done.flatMap Done.executions).foldl
      (fun report execution => report.count execution.outcome) report =
        ((done.flatMap Done.executions).map Execution.outcome).foldl Report.count report := by
    rw [List.foldl_map]
  refine ⟨?_, ?_, rfl⟩
  · simp only [collect, counted, Report.ticketsDeferred_foldl_count]
  · simp only [collect, counted, Report.aborted_foldl_count]

theorem foldl_auditFailures (done : List Done) (count : Int) :
    done.foldl (fun count job => count + (job.auditFailures : Int)) count =
      count + ((done.map Done.auditFailures).sum : Nat) := by
  induction done generalizing count with
  | nil => simp
  | cons first rest inductionHypothesis =>
      rw [List.foldl_cons, inductionHypothesis, List.map_cons, List.sum_cons]
      push_cast
      omega

/-! ## Doing the work -/

/-- What a plan came to is noted. -/
theorem perform_execute_ok {matchedAt : Instant} {cycleId : String} {job : Job}
    {state between : S} {executions : List Execution}
    (attempted : (attemptPlan desk job matchedAt cycleId).perform state =
      (.ok (.ok executions), between)) :
    (execute desk matchedAt cycleId job).perform state =
      ((Done.mk job.ticket.id executions) <$> recordAll desk executions).perform between := by
  rw [execute, Act.perform_bind_ok attempted, map_eq_pure_bind]
  rfl

/-- Noting executions goes along a relation where noting one does. -/
theorem recordAll_along {relation : S -> S -> Prop}
    (reflexive : forall state, relation state state)
    (transitive : forall {first second third}, relation first second ->
      relation second third -> relation first third)
    (records : forall execution, (desk.trail.record execution).Along relation)
    (executions : List Execution) : (recordAll desk executions).Along relation := by
  induction executions with
  | nil => exact .pure reflexive 0
  | cons execution rest inductionHypothesis =>
      refine @Act.Along.bind S _ _ relation @transitive _ _ (.attempt (records execution))
        fun noted => ?_
      rcases noted with failure | _
      · simp only
        split
        · exact @Act.Along.bind S _ _ relation @transitive _ _ inductionHypothesis
            fun later => .pure reflexive (later + 1)
        · exact .ofResult reflexive _
      · exact inductionHypothesis

/-- What was done of some jobs, each of which was done or left, between two states. -/
inductive Worked (desk : Desk S) (matchedAt : Instant) (cycleId : String) :
    List Job -> S -> List (Job × Done) -> S -> Prop
  | nil {state : S} : Worked desk matchedAt cycleId [] state [] state
  | left {job : Job} {jobs : List Job} {state after : S} {worked : List (Job × Done)} :
      Worked desk matchedAt cycleId jobs state worked after ->
      Worked desk matchedAt cycleId (job :: jobs) state worked after
  | did {job : Job} {jobs : List Job} {state between after : S} {done : Done}
      {worked : List (Job × Done)} :
      (execute desk matchedAt cycleId job).perform state = (.ok done, between) ->
      Worked desk matchedAt cycleId jobs between worked after ->
      Worked desk matchedAt cycleId (job :: jobs) state ((job, done) :: worked) after

namespace Worked

variable {matchedAt : Instant} {cycleId : String} {jobs : List Job} {state after : S}
  {worked : List (Job × Done)}

/-- Jobs are done in their order, and each at most once. -/
theorem sublist (done : Worked desk matchedAt cycleId jobs state worked after) :
    (worked.map Prod.fst).Sublist jobs := by
  induction done with
  | nil => exact List.Sublist.refl _
  | left _ inductionHypothesis => exact inductionHypothesis.cons _
  | did _ _ inductionHypothesis => exact inductionHypothesis.cons_cons _

/-- Where none was left, all were done. -/
theorem all (done : Worked desk matchedAt cycleId jobs state worked after)
    (many : jobs.length ≤ worked.length) : worked.map Prod.fst = jobs := by
  refine done.sublist.eq_of_length_le ?_
  rw [List.length_map]
  exact many

end Worked

/-- Every job can be done on every state of a kind, which it then leaves again. -/
def CanDo (desk : Desk S) (matchedAt : Instant) (cycleId : String) (calm : S -> Prop)
    (jobs : List Job) : Prop :=
  forall job, job ∈ jobs -> forall state, calm state -> Exists fun done => Exists fun after =>
    (execute desk matchedAt cycleId job).perform state = (.ok done, after) ∧ calm after

/-- A job that is not done is left over, and the report counts it. -/
theorem perform_work_left (matchedAt : Instant) {isLate : S -> Bool} {flow : Flow S}
    (kept : verdict flow.scheduler.isStopping (isLate flow.world) ≠ .go) (job : Job)
    (jobs : List Job) :
    Exists fun isCancelled =>
      (work desk matchedAt isLate (job :: jobs)).perform flow =
        (work desk matchedAt isLate jobs).perform { flow with report := { flow.report with
          ticketsDeferred := flow.report.ticketsDeferred + 1
          cancelled := isCancelled } } := by
  rw [work, Act.perform_look_bind]
  cases decided : verdict flow.scheduler.isStopping (isLate flow.world) with
  | go => exact False.elim (kept decided)
  | stopped => exact ⟨true, rfl⟩
  | late => exact ⟨flow.report.cancelled, rfl⟩

/--
Work comes to an end with some jobs done; the report counts those that were left.  Without a
request to stop and with time enough, none is left.
-/
theorem perform_work {matchedAt : Instant} {isLate : S -> Bool} {calm : S -> Prop}
    {jobs : List Job} {flow : Flow S}
    (canDo : CanDo desk matchedAt flow.report.cycleId calm jobs) (begun : calm flow.world) :
    Exists fun worked => Exists fun after =>
      (work desk matchedAt isLate jobs).perform flow = (.ok (worked.map Prod.snd), after) ∧
      Worked desk matchedAt flow.report.cycleId jobs flow.world worked after.world ∧
      calm after.world ∧
      after.report = { flow.report with
        ticketsDeferred := flow.report.ticketsDeferred + (jobs.length - worked.length)
        cancelled := after.report.cancelled } ∧
      (flow.scheduler.isStopping = false -> (forall state, isLate state = false) ->
        worked.length = jobs.length) := by
  induction jobs generalizing flow with
  | nil => exact ⟨[], flow, rfl, .nil, begun, by simp, fun _ _ => rfl⟩
  | cons job rest inductionHypothesis =>
      have later : CanDo desk matchedAt flow.report.cycleId calm rest :=
        fun other member => canDo other (List.mem_cons_of_mem job member)
      by_cases goes : verdict flow.scheduler.isStopping (isLate flow.world) = .go
      · rcases canDo job List.mem_cons_self flow.world begun with ⟨done, between, did, again⟩
        rcases @inductionHypothesis { flow with world := between } later again with
          ⟨worked, after, performed, others, ended, reported, prompt⟩
        refine ⟨(job, done) :: worked, after, ?_, .did did others, ended, ?_, ?_⟩
        · rw [work, Act.perform_look_bind]
          simp only [goes, Act.perform_look_bind]
          rw [Act.perform_bind_ok (perform_world did), Act.perform_bind_ok performed]
          rfl
        · rw [reported]
          simp only [List.length_cons]
          congr 1
          push_cast
          omega
        · intro unstopped timely
          rw [List.length_cons, List.length_cons, prompt unstopped timely]
      · rcases perform_work_left matchedAt goes job rest with ⟨isCancelled, left⟩
        rcases @inductionHypothesis { flow with report := { flow.report with
            ticketsDeferred := flow.report.ticketsDeferred + 1, cancelled := isCancelled } }
          later begun with ⟨worked, after, performed, others, ended, reported, _⟩
        refine ⟨worked, after, left.trans performed, .left others, ended, ?_, ?_⟩
        · rw [reported]
          simp only [List.length_cons]
          congr 1
          push_cast
          omega
        · intro unstopped timely
          rw [unstopped, timely] at goes
          exact False.elim (goes rfl)

/-! ## Making jobs -/

/-- A desk that sorts rules out and decides between actions as rules say, and never fails at it. -/
structure Decides (desk : Desk S) (scale : PriorityScale) : Prop where
  sortOut : forall rules ticket now,
    desk.sortOut rules ticket now = pure (Matching.of scale rules ticket now)
  resolve : forall ticket matching,
    desk.resolve ticket matching =
      pure (Plan.resolve ticket.id matching.firing matching.holding)

/-- The job on a ticket, if any rule fires on it. -/
def jobOf? (scale : PriorityScale) (rules : List Rule) (now : Instant) (ticket : Ticket) :
    Option Job :=
  if (Matching.of scale rules ticket now).firing.isEmpty then none
  else some ⟨ticket, (Matching.of scale rules ticket now).firing,
    .ok (Plan.onTicket scale rules ticket now)⟩

/-- The jobs on tickets. -/
def jobsOf (scale : PriorityScale) (rules : List Rule) (now : Instant) (tickets : List Ticket) :
    List Job := tickets.filterMap (jobOf? scale rules now)

section Jobs

variable {scale : PriorityScale} {rules : List Rule} {now : Instant} {tickets : List Ticket}

theorem mem_jobsOf {job : Job} : job ∈ jobsOf scale rules now tickets ↔
    job.ticket ∈ tickets ∧ (Matching.of scale rules job.ticket now).firing ≠ [] ∧
      job.firing = (Matching.of scale rules job.ticket now).firing ∧
      job.plan = .ok (Plan.onTicket scale rules job.ticket now) := by
  rw [jobsOf, List.mem_filterMap]
  constructor
  · rintro ⟨ticket, member, made⟩
    unfold jobOf? at made
    split at made
    next => cases made
    next fires =>
        cases made
        exact ⟨member, fun none_ => fires (List.isEmpty_iff.mpr none_), rfl, rfl⟩
  · rintro ⟨member, fires, firing, plan⟩
    refine ⟨job.ticket, member, ?_⟩
    rw [jobOf?, if_neg fun empty => fires (List.isEmpty_iff.mp empty), <- firing, <- plan]

/-- Jobs are on some of the tickets, in their order. -/
theorem tickets_jobsOf (scale : PriorityScale) (rules : List Rule) (now : Instant)
    (tickets : List Ticket) : ((jobsOf scale rules now tickets).map Job.ticket).Sublist tickets := by
  induction tickets with
  | nil => exact List.Sublist.refl _
  | cons ticket rest inductionHypothesis =>
      rw [jobsOf]
      cases made : jobOf? scale rules now ticket with
      | none =>
          rw [List.filterMap_cons_none made]
          exact inductionHypothesis.cons ticket
      | some job =>
          rw [List.filterMap_cons_some made]
          have same : job.ticket = ticket := by
            unfold jobOf? at made
            split at made
            next => cases made
            next =>
                cases made
                rfl
          rw [List.map_cons, same]
          exact inductionHypothesis.cons_cons ticket

theorem underCap_of_le {cap : Int} {tickets : List Ticket} (few : tickets.length ≤ cap) :
    underCap cap tickets = tickets := if_neg (Int.not_lt.mpr few)

/-- What is under the cap are the first tickets, also where there are fewer. -/
theorem underCap_eq (cap : Int) (tickets : List Ticket) :
    underCap cap tickets = Tickets.firstOf cap tickets := by
  by_cases many : cap < tickets.length
  · rw [underCap, if_pos many]
  · have forwards : ¬cap < 0 := by omega
    rw [underCap, if_neg many, Tickets.firstOf, if_neg forwards, List.take_of_length_le (by omega)]

theorem underCap_sublist (cap : Int) (tickets : List Ticket) :
    (underCap cap tickets).Sublist tickets := by
  unfold underCap
  split
  · exact List.take_sublist _ _
  · exact List.Sublist.refl _

/-- The tickets on which rules fire. -/
def hitsOf (scale : PriorityScale) (rules : List Rule) (now : Instant) (tickets : List Ticket) :
    List Hit :=
  tickets.filterMap fun ticket =>
    if (Matching.of scale rules ticket now).firing.isEmpty then none
    else some ⟨ticket, Matching.of scale rules ticket now⟩

theorem perform_sortOut (decides : Decides desk scale) (state : S) :
    (sortOut desk rules now tickets).perform state =
      (.ok (hitsOf scale rules now tickets, []), state) := by
  induction tickets with
  | nil => rfl
  | cons ticket rest inductionHypothesis =>
      have sorted : (desk.sortOut rules ticket now).perform state =
          (.ok (Matching.of scale rules ticket now), state) := by
        rw [decides.sortOut]
        rfl
      rw [sortOut, Act.perform_attempt_bind, sorted, Act.perform_bind_ok inductionHypothesis]
      unfold hitsOf
      cases fires : (Matching.of scale rules ticket now).firing.isEmpty with
      | true =>
          rw [List.filterMap_cons_none (by rw [fires]; rfl)]
          simp only [fires, if_true, Act.perform_pure]
      | false =>
          rw [List.filterMap_cons_some (by rw [fires]; rfl)]
          simp only [fires, Bool.false_eq_true, if_false, Act.perform_pure]

theorem perform_resolve (decides : Decides desk scale) (hits : List Hit) (state : S) :
    (resolve desk hits).perform state =
      (.ok (hits.map fun hit => ⟨hit.ticket, hit.matching.firing,
        .ok (Plan.resolve hit.ticket.id hit.matching.firing hit.matching.holding)⟩), state) := by
  induction hits with
  | nil => rfl
  | cons hit rest inductionHypothesis =>
      have resolved : (desk.resolve hit.ticket hit.matching).perform state =
          (.ok (Plan.resolve hit.ticket.id hit.matching.firing hit.matching.holding), state) := by
        rw [decides.resolve]
        rfl
      rw [resolve, Act.perform_attempt_bind, resolved, Act.perform_bind_ok inductionHypothesis]
      rfl

theorem jobsOf_eq : jobsOf scale rules now tickets =
    (hitsOf scale rules now tickets).map fun hit => ⟨hit.ticket, hit.matching.firing,
      .ok (Plan.resolve hit.ticket.id hit.matching.firing hit.matching.holding)⟩ := by
  rw [hitsOf, List.map_filterMap, jobsOf]
  congr 1
  funext ticket
  unfold jobOf?
  split <;> rfl

end Jobs

/-! ## The stages one by one -/

/-- Everything between fetching and the work. -/
def prepare (desk : Desk S) (startedAt : Instant) (rules : List Rule) (tickets : List Ticket) :
    Act (Flow S) (List Job) := do
  enter .matching
  let (hits, failed) <- world.perform (sortOut desk rules startedAt tickets)
  note fun report => { report with
    ticketsMatched := hits.length
    ticketsEvaluated := (tickets.length : Int) - failed.length }
  enter .resolving
  let jobs <- world.perform (resolve desk hits)
  enter .executing
  pure (failed ++ jobs)

/-- Everything after the work. -/
def conclude (desk : Desk S) (startedAt : Instant) (done : List Done) : Act (Flow S) Unit := do
  enter .recording
  note (collect done)
  mark desk startedAt
  let now <- world.perform (Act.look desk.clock)
  remember fun scheduler => { scheduler with
    failures := 0
    lastError := none
    lastSuccess := some now }

theorem process_eq (startedAt : Instant) (isLate : S -> Bool) (rules : List Rule)
    (tickets : List Ticket) :
    process desk startedAt isLate rules tickets =
      prepare desk startedAt rules tickets >>= fun jobs =>
        work desk startedAt isLate jobs >>= conclude desk startedAt := by
  simp only [process, prepare, bind_assoc, pure_bind]
  rfl

section Frames

variable {V : Type} {view : Flow S -> V}
  (world_ : forall (flow : Flow S) (world : S), view { flow with world } = view flow)

include world_

/-- Fetching shows where a duration, or what was fetched, shows. -/
theorem fetch_leaves
    (measured : forall (flow : Flow S) (duration : Quantity),
      view { flow with scheduler := { flow.scheduler with
        metrics := flow.scheduler.metrics.timing "fetch_duration_ms" duration [] } } = view flow)
    (noted : forall (flow : Flow S) (deferred rules fetched : Int),
      view { flow with report := { flow.report with
        ticketsDeferred := deferred
        rulesEvaluated := rules
        ticketsFetched := fetched } } = view flow)
    (cap : Int) : (fetch desk cap).Keeps view := by
  refine Act.Keeps.bind (fun flow => world_ flow _) fun started =>
    Act.Keeps.bind (fun flow => world_ flow _) fun result =>
      Act.Keeps.bind (fun flow => world_ flow _) fun ended =>
        Act.Keeps.bind (fun flow => measured flow _) fun _ =>
          Act.Keeps.bind (Act.Keeps.look _) fun cycleId =>
            Act.Keeps.bind (Act.Keeps.ofResult _) fun fetched => ?_
  rcases fetched with ⟨rules, tickets⟩
  exact Act.Keeps.bind (fun flow => noted flow _ _ _) fun _ => Act.Keeps.pure _

/-- A mark shows where the world or a failure of the database shows. -/
theorem mark_leaves
    (failed : forall flow : Flow S, view { flow with scheduler := { flow.scheduler with
      metrics := flow.scheduler.metrics.recordFailure "scheduler" "mark_executed" } } = view flow)
    (startedAt : Instant) : (mark desk startedAt).Keeps view := by
  refine Act.Keeps.bind (Act.Keeps.look _) fun ids => ?_
  split
  · exact Act.Keeps.pure _
  · refine Act.Keeps.bind (fun flow => ?_) fun result => ?_
    · rw [Act.perform_attempt]
      exact world_ flow _
    cases result with
    | ok count => exact Act.Keeps.pure _
    | error failure =>
        simp only
        split
        · exact failed
        · exact Act.Keeps.ofResult _

end Frames

/-- Everything up to the end of the work; the answer is what was done. -/
def gather (desk : Desk S) (cap : Int) (startedAt : Instant) (isLate : S -> Bool) :
    Act (Flow S) (List Done) := do
  enter .fetching
  let (rules, tickets) <- fetch desk cap
  work desk startedAt isLate (<- prepare desk startedAt rules tickets)

section Stages

variable {scale : PriorityScale} {rules : List Rule} {tickets : List Ticket} {flow : Flow S}
  {fetched : S}

theorem perform_fetch (cap : Int)
    (readings : (read desk).perform flow.world = (.ok (rules, tickets), fetched)) :
    Exists fun scheduler => (fetch desk cap).perform flow =
      (.ok (rules, underCap cap tickets), ⟨fetched, scheduler, { flow.report with
        ticketsDeferred := flow.report.ticketsDeferred + overCap cap tickets
        rulesEvaluated := rules.length
        ticketsFetched := (underCap cap tickets).length }⟩) ∧
      scheduler.isStopping = flow.scheduler.isStopping := by
  have looked (flow : Flow S) : ((world (S := S)).perform (Act.look desk.stopwatch)).perform flow =
      (.ok (desk.stopwatch flow.world), flow) := rfl
  have attempted : ((world (S := S)).perform (read desk)).attempt.perform flow =
      (.ok (.ok (rules, tickets)), { flow with world := fetched }) := by
    rw [Act.perform_attempt, perform_world readings]
  rw [fetch, Act.perform_bind_ok (looked flow), Act.perform_bind_ok attempted,
    Act.perform_bind_ok (looked _)]
  exact ⟨_, rfl, rfl⟩

/-- A failure to read the rules or the tickets is a failure to fetch. -/
theorem perform_fetch_error (cap : Int) {failure : Failure}
    (readings : (read desk).perform flow.world = (.error failure, fetched)) :
    Exists fun scheduler => (fetch desk cap).perform flow =
      (.error (fetchFailure flow.report.cycleId failure), ⟨fetched, scheduler, flow.report⟩) := by
  have looked (flow : Flow S) : ((world (S := S)).perform (Act.look desk.stopwatch)).perform flow =
      (.ok (desk.stopwatch flow.world), flow) := rfl
  have attempted : ((world (S := S)).perform (read desk)).attempt.perform flow =
      (.ok (.error failure), { flow with world := fetched }) := by
    rw [Act.perform_attempt, perform_world readings]
  rw [fetch, Act.perform_bind_ok (looked flow), Act.perform_bind_ok attempted,
    Act.perform_bind_ok (looked _)]
  exact ⟨_, rfl⟩

theorem perform_prepare (decides : Decides desk scale) (startedAt : Instant) :
    Exists fun scheduler => (prepare desk startedAt rules tickets).perform flow =
      (.ok (jobsOf scale rules startedAt tickets), ⟨flow.world, scheduler, { flow.report with
        ticketsMatched := (hitsOf scale rules startedAt tickets).length
        ticketsEvaluated := (tickets.length : Int) - ([] : List Job).length }⟩) ∧
      scheduler.isStopping = flow.scheduler.isStopping := by
  have sorted (flow : Flow S) : ((world (S := S)).perform
      (sortOut desk rules startedAt tickets)).perform flow =
        (.ok (hitsOf scale rules startedAt tickets, []), flow) :=
    perform_world (perform_sortOut decides flow.world)
  have resolved (flow : Flow S) : ((world (S := S)).perform
      (resolve desk (hitsOf scale rules startedAt tickets))).perform flow =
        (.ok (jobsOf scale rules startedAt tickets), flow) := by
    rw [jobsOf_eq]
    exact perform_world (perform_resolve decides _ flow.world)
  rw [prepare, Act.perform_bind_ok (perform_enter _ _), Act.perform_bind_ok (sorted _),
    Act.perform_bind_ok (perform_note _ _), Act.perform_bind_ok (perform_enter _ _),
    Act.perform_bind_ok (resolved _)]
  exact ⟨_, rfl, rfl⟩

/-- The desk notes when rules were executed, or fails as a database does. -/
def Marks (desk : Desk S) (calm : S -> Prop) : Prop :=
  forall ids executedAt state, calm state -> forall failure,
    ((desk.rules.markExecuted ids executedAt).perform state).1 = .error failure ->
      failure.isDatabase = true

theorem perform_mark {calm : S -> Prop} (marks : Marks desk calm) (begun : calm flow.world)
    (startedAt : Instant) :
    Exists fun scheduler => Exists fun after =>
      (mark desk startedAt).perform flow = (.ok (), ⟨after, scheduler, flow.report⟩) ∧
      (after = flow.world ∨ Exists fun ids =>
        after = ((desk.rules.markExecuted ids startedAt).perform flow.world).2) := by
  rw [mark, Act.perform_look_bind]
  cases none_ : flow.report.executedRuleIds.isEmpty with
  | true => exact ⟨flow.scheduler, flow.world, rfl, Or.inl rfl⟩
  | false =>
      rw [if_neg Bool.false_ne_true]
      cases marked : (desk.rules.markExecuted flow.report.executedRuleIds startedAt).perform
        flow.world with
      | mk result after =>
          have attempted : ((world (S := S)).perform (desk.rules.markExecuted
              flow.report.executedRuleIds startedAt)).attempt.perform flow =
                (.ok result, { flow with world := after }) := by
            rw [Act.perform_attempt, perform_world marked]
          rw [Act.perform_bind_ok attempted]
          have same : after = ((desk.rules.markExecuted flow.report.executedRuleIds
              startedAt).perform flow.world).2 := by rw [marked]
          cases result with
          | ok count => exact ⟨flow.scheduler, after, rfl, Or.inr ⟨_, same⟩⟩
          | error failure =>
              have database := marks _ _ _ begun failure (congrArg Prod.fst marked)
              simp only [database, if_true]
              exact ⟨_, after, rfl, Or.inr ⟨_, same⟩⟩

/-- The end of a cycle always comes, and all it may do to the state is note executed rules. -/
theorem perform_conclude {calm : S -> Prop} (marks : Marks desk calm) (begun : calm flow.world)
    (startedAt : Instant) (done : List Done) :
    Exists fun ended => (conclude desk startedAt done).perform flow = (.ok (), ended) ∧
      ended.report = collect done flow.report ∧
      (ended.world = flow.world ∨ Exists fun ids =>
        ended.world = ((desk.rules.markExecuted ids startedAt).perform flow.world).2) := by
  rcases @perform_mark S desk ⟨flow.world, { flow.scheduler with phase := .recording },
    collect done flow.report⟩ calm marks begun startedAt with ⟨scheduler, after, marked, left⟩
  have looked (flow : Flow S) : ((world (S := S)).perform (Act.look desk.clock)).perform flow =
      (.ok (desk.clock flow.world), flow) := rfl
  have concluded : (conclude desk startedAt done).perform flow =
      (.ok (), ⟨after, { scheduler with
        failures := 0
        lastError := none
        lastSuccess := some (desk.clock after) }, collect done flow.report⟩) := by
    rw [conclude, Act.perform_bind_ok (perform_enter _ _), Act.perform_bind_ok (perform_note _ _),
      Act.perform_bind_ok marked, Act.perform_bind_ok (looked _), perform_remember]
  exact ⟨_, concluded, rfl, left⟩

end Stages

end Cycle

/-! ## Whole cycles -/

namespace Cycle

/--
A cycle that is to run: at what pace, for what reason, with what clock for lengths of time, and
from where.
-/
structure Turn (S : Type) where
  stopwatch : S -> Quantity
  pace : Pace
  trigger : String
  scheduler : Scheduler
  state : S

namespace Turn

variable {S : Type} (base : Desk S) (turn : Turn S)

/-- The desk of a turn has the stopwatch of the turn. -/
def desk : Desk S := { base with stopwatch := turn.stopwatch }

/-- What comes of the turn. -/
def outcome : Except Failure Report × Scheduler × S :=
  (run (turn.desk base) turn.pace turn.trigger).perform (turn.scheduler, turn.state)

/-- The state after the turn. -/
def after : S := (turn.outcome base).2.2

/-- The state after the id of the cycle was drawn. -/
def begun : S := (base.cycleId turn.state).2

/-- The id of the cycle. -/
def cycleId : String := (base.cycleId turn.state).1

/-- When the turn starts. -/
def startedAt : Stamp := base.clock (turn.begun base)

/-- The active rules and open tickets as the turn reads them. -/
def readings : Except Failure (List Rule × List Ticket) × S :=
  (read base).perform (turn.begun base)

/-- The flow on which the turn begins. -/
def opening : Flow S :=
  ⟨turn.begun base, turn.scheduler, .opening (turn.cycleId base) turn.trigger
    (turn.startedAt base)⟩

/-- The flow with which the turn fetches. -/
def fetching : Flow S :=
  { turn.opening base with scheduler := { turn.scheduler with phase := .fetching } }

theorem perform_enter_fetching :
    (enter .fetching).perform (turn.opening base) = (.ok (), turn.fetching base) := rfl

/-- Whether the turn has gone on for too long. -/
def isLate : S -> Bool :=
  Cycle.isLate (turn.desk base) turn.pace.deadline (turn.stopwatch turn.state)

/-- Nobody asked to stop before the turn, and its time is never up. -/
def IsPrompt : Prop :=
  turn.scheduler.isStopping = false ∧ forall state, turn.isLate base state = false

/-- What the turn does before its time is up and nobody stops it. -/
def done : List Done :=
  ((gather (turn.desk base) turn.pace.cap (turn.startedAt base).instant (turn.isLate base)).perform
    (turn.opening base)).1.toOption.getD []

theorem outcome_eq {result : Except Failure Unit} {flow : Flow S}
    (performed : (body (turn.desk base) turn.pace.cap (turn.startedAt base).instant
      (turn.isLate base)).perform (turn.opening base) = (result, flow)) :
    turn.outcome base =
      (result.map fun _ => (finish (base.clock flow.world) flow).report,
        (finish (base.clock flow.world) flow).scheduler, flow.world) := by
  have seen := congrArg (fun ended : Except Failure Unit × Flow S =>
    (ended.1.map fun _ => (finish (base.clock ended.2.world) ended.2).report,
      (finish (base.clock ended.2.world) ended.2).scheduler, ended.2.world)) performed
  exact seen

/-- The body of a turn goes on with what the turn fetched, or gives the turn up. -/
theorem perform_body : (body (turn.desk base) turn.pace.cap (turn.startedAt base).instant
    (turn.isLate base)).perform (turn.opening base) =
      match (fetch (turn.desk base) turn.pace.cap).perform (turn.fetching base) with
      | (.error failure, flow) => (abort failure).perform flow
      | (.ok (rules, tickets), flow) => (process (turn.desk base) (turn.startedAt base).instant
          (turn.isLate base) rules tickets).perform flow := by
  rw [body, Act.perform_bind_ok (turn.perform_enter_fetching base), Act.perform_attempt_bind]
  rcases (fetch (turn.desk base) turn.pace.cap).perform (turn.fetching base) with ⟨result, flow⟩
  cases result <;> rfl

/-- A turn that cannot read the rules or the tickets is given up before it does anything. -/
theorem outcome_of_error {failure : Failure} {fetched : S}
    (unread : turn.readings base = (.error failure, fetched)) :
    turn.after base = fetched ∧ turn.done base = [] ∧ Exists fun report =>
      (turn.outcome base).1 = .ok report ∧ report.aborted = true := by
  rcases @perform_fetch_error S (turn.desk base) (turn.fetching base) fetched turn.pace.cap failure
    unread with ⟨scheduler, performed⟩
  have ended := turn.perform_body base
  rw [performed] at ended
  have outcome := turn.outcome_eq base ended
  refine ⟨congrArg (fun triple => triple.2.2) outcome, ?_, _, congrArg Prod.fst outcome, rfl⟩
  rw [done, gather, Act.perform_bind_ok (turn.perform_enter_fetching base),
    Act.perform_bind_error performed]
  rfl

/-- What a turn that read its rules and tickets goes through. -/
structure Goes (scale : PriorityScale) (rules : List Rule) (tickets : List Ticket)
    (fetched : S) (worked : List (Job × Done)) (between : S) (report : Report) : Prop where
  answered : (turn.outcome base).1 = .ok report
  works : Worked (turn.desk base) (turn.startedAt base).instant (turn.cycleId base)
    (jobsOf scale rules (turn.startedAt base).instant (underCap turn.pace.cap tickets))
      fetched worked between
  done_eq : turn.done base = worked.map Prod.snd
  aborted_eq : report.aborted = false
  deferred_eq : report.ticketsDeferred = overCap turn.pace.cap tickets +
    ((jobsOf scale rules (turn.startedAt base).instant
      (underCap turn.pace.cap tickets)).length - worked.length)
  auditFailures_eq : report.auditFailures =
    ((worked.map fun pair => pair.2.auditFailures).sum : Nat)
  marked : turn.after base = between ∨ Exists fun ids =>
    turn.after base = ((base.rules.markExecuted ids (turn.startedAt base).instant).perform
      between).2
  prompt : turn.IsPrompt base -> report.ticketsDeferred = overCap turn.pace.cap tickets

/-- A turn whose jobs can be done comes to its end through all its stages. -/
theorem goes {scale : PriorityScale} {rules : List Rule} {tickets : List Ticket} {fetched : S}
    {calm : S -> Prop} (decides : Decides base scale) (marks : Marks base calm)
    (canDo : CanDo (turn.desk base) (turn.startedAt base).instant (turn.cycleId base) calm
      (jobsOf scale rules (turn.startedAt base).instant (underCap turn.pace.cap tickets)))
    (readings : turn.readings base = (.ok (rules, tickets), fetched)) (begun : calm fetched) :
    Exists fun worked => Exists fun between => Exists fun report =>
      turn.Goes base scale rules tickets fetched worked between report ∧ calm between := by
  rcases @perform_fetch S (turn.desk base) rules tickets (turn.fetching base) fetched turn.pace.cap
    readings with ⟨scheduler, fetches, stopping⟩
  generalize made : Flow.mk fetched scheduler _ = flow at fetches
  rcases @perform_prepare S (turn.desk base) scale rules (underCap turn.pace.cap tickets) flow
    ⟨decides.sortOut, decides.resolve⟩ (turn.startedAt base).instant with ⟨later, prepares, still⟩
  generalize prepared : Flow.mk flow.world later _ = ready at prepares
  have cycleId : ready.report.cycleId = turn.cycleId base := by
    rw [<- prepared, <- made]
    rfl
  have world : ready.world = fetched := by rw [<- prepared, <- made]
  rw [<- cycleId] at canDo
  rw [<- world] at begun
  rcases @perform_work S (turn.desk base) _ (turn.isLate base) calm _ ready canDo begun with
    ⟨worked, ended, works, did, calmly, reported, prompt⟩
  rcases @perform_conclude S (turn.desk base) ended calm marks calmly
    (turn.startedAt base).instant (worked.map Prod.snd) with ⟨last, concludes, collected, left⟩
  have gathers : (gather (turn.desk base) turn.pace.cap (turn.startedAt base).instant
      (turn.isLate base)).perform (turn.opening base) = (.ok (worked.map Prod.snd), ended) := by
    rw [gather, Act.perform_bind_ok (turn.perform_enter_fetching base),
      Act.perform_bind_ok fetches]
    exact (Act.perform_bind_ok prepares).trans works
  have bodily : (body (turn.desk base) turn.pace.cap (turn.startedAt base).instant
      (turn.isLate base)).perform (turn.opening base) = (.ok (), last) := by
    rw [turn.perform_body base, fetches]
    simp only [process_eq]
    rw [Act.perform_bind_ok prepares, Act.perform_bind_ok works, concludes]
  have outcome := turn.outcome_eq base bodily
  rcases collect_eq (worked.map Prod.snd) ended.report with ⟨deferred, aborted, failures⟩
  rw [<- collected, reported, <- prepared, <- made] at deferred aborted failures
  have none_ : (turn.fetching base).report.ticketsDeferred = 0 := rfl
  simp only [none_, Int.zero_add] at deferred
  refine ⟨worked, ended.world, _, ⟨congrArg Prod.fst outcome, ?_, ?_, aborted, deferred, ?_, ?_, ?_⟩,
    calmly⟩
  · rw [cycleId, world] at did
    exact did
  · rw [done, gathers]
    rfl
  · refine failures.trans ?_
    rw [foldl_auditFailures, List.map_map]
    simp only [fetching, opening, Report.opening, Int.zero_add]
    rfl
  · rcases left with same | ⟨ids, same⟩
    · exact Or.inl ((congrArg (fun triple => triple.2.2) outcome).trans same)
    · exact Or.inr ⟨ids, (congrArg (fun triple => triple.2.2) outcome).trans same⟩
  · rintro ⟨unstopped, timely⟩
    have same : ready.scheduler.isStopping = false := by
      rw [<- prepared, still, <- made, stopping]
      exact unstopped
    have all := prompt same timely
    refine deferred.trans ?_
    rw [all, Int.sub_self, Int.add_zero]

end Turn

end Cycle
end Triage
