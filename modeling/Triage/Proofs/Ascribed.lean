import Triage.Proofs.EveryJobOnce
import Triage.Proofs.Grouping
import Triage.Proofs.JobRows
import Triage.Proofs.Resolution

namespace Triage

/-!
# Executions are ascribed to rules that were read

Where sorting out and deciding answer at all, they answer with rules that they were given.  Then
every execution of a cycle is ascribed to one of the rules that the cycle has read, in the version
in which it was read, and it says when the cycle began.  This does not depend on what becomes of the
operations that a job needs, nor on what others do in the meantime.
-/

open Cycle (Job Done Hit Turn Crew)
open Executor (Group Entry)

/-! ## What a script may answer -/

/-- Whatever happens around a script, it answers what is good or fails. -/
def Script.Answers {S A : Type} (good : A -> Prop) (script : Script S A) : Prop :=
  script.Keeps (fun _ => True) (fun _ _ => True) fun result => forall a, result = .ok a -> good a

namespace Script.Answers

variable {S A B : Type} {good : A -> Prop} {later : B -> Prop} {script : Script S A}

theorem ok {a : A} (is : good a) : (Script.done (.ok a) : Script S A).Answers good := by
  intro b same
  cases same
  exact is

theorem error (failure : Failure) : (Script.done (.error failure) : Script S A).Answers good :=
  nofun

theorem one {act : Act S A}
    (answers : forall state a, (act.perform state).1 = .ok a -> good a) :
    (Script.one act).Answers good :=
  fun state _ => ⟨trivial, trivial, answers state⟩

/-- Nothing need be known of what a script answers. -/
theorem any (script : Script S A) : script.Answers fun _ => True := by
  induction script with
  | done result => exact fun _ _ => trivial
  | step act next inductionHypothesis =>
      exact fun state _ => ⟨trivial, trivial, inductionHypothesis _⟩

theorem bind {next : A -> Script S B} (answers : script.Answers good)
    (goesOn : forall a, good a -> (next a).Answers later) : (script.bind next).Answers later :=
  Script.Keeps.bind answers (fun a is => goesOn a (is a rfl)) fun _ _ => nofun

/-- What comes after a script may be good whatever the script answers. -/
theorem bindAny {next : A -> Script S B} (goesOn : forall a, (next a).Answers later) :
    (script.bind next).Answers later :=
  (any script).bind fun a _ => goesOn a

theorem andThen {next : Except Failure A -> Script S B} (answers : script.Answers good)
    (goesOn : forall result, (forall a, result = .ok a -> good a) -> (next result).Answers later) :
    (script.andThen next).Answers later :=
  Script.Keeps.andThen answers goesOn

/-- What comes of a run is good. -/
theorem of_comes {script : Script S Done} {good : Done -> Prop} (answers : script.Answers good)
    {state : S} {done : Done} (comes : Crew.Comes script state (.ok done)) : good done := by
  rcases comes with ⟨moves, after, runs⟩
  rcases Script.Keeps.runs (fun _ => trivial) (fun _ _ _ _ _ => trivial)
    (fun _ _ _ => ⟨trivial, trivial⟩) answers trivial runs with ⟨_, _, is⟩
  exact is done rfl

end Script.Answers

/-! ## Plans, entries and executions -/

/-- A plan made of actions of some rules. -/
structure Plan.IsUnder (rules : List Rule) (plan : Plan) : Prop where
  mutations : forall planned, planned ∈ plan.mutations ->
    planned.rule ∈ rules ∧ planned.action ∈ planned.rule.actions
  notifications : forall planned, planned ∈ plan.notifications ->
    planned.rule ∈ rules ∧ planned.action ∈ planned.rule.actions
  superseded : forall lost, lost ∈ plan.superseded ->
    lost.rule ∈ rules ∧ lost.action ∈ lost.rule.actions

/-- Rules that fire on a ticket or hold are among those that were sorted out. -/
theorem Matching.of_subset (scale : PriorityScale) (rules : List Rule) (ticket : Ticket)
    (now : Instant) : (Matching.of scale rules ticket now).firing ⊆ rules ∧
      (Matching.of scale rules ticket now).holding ⊆ rules := by
  constructor
  · intro rule member
    exact (List.mem_filter.mp (Matching.mem_firing.mp member).1).1
  · intro rule member
    exact (List.mem_filter.mp (Matching.mem_holding.mp member).1).1

/-- A plan is made of actions of the rules that fire or hold. -/
theorem Plan.resolve_isUnder {rules firing holding : List Rule} (ticketId : String)
    (fires : firing ⊆ rules) (holds : holding ⊆ rules) :
    (Plan.resolve ticketId firing holding).IsUnder rules := by
  have among {rule : Rule} (source : rule ∈ firing ∨ rule ∈ holding) : rule ∈ rules :=
    source.elim (fun fired => fires fired) fun held => holds held
  constructor
  · intro planned member
    rcases Plan.mem_rules_of_mutation member with ⟨source, acts⟩
    exact ⟨among source, acts⟩
  · intro planned member
    rcases Plan.mem_rules_of_notification member with ⟨source, acts, _⟩
    exact ⟨among source, acts⟩
  · intro lost member
    rcases Plan.mem_rules_of_superseded member with ⟨source, acts⟩
    exact ⟨among source, acts⟩

/-- A job that is about some rules only. -/
structure Cycle.Job.IsUnder (rules : List Rule) (job : Job) : Prop where
  firing : job.firing ⊆ rules
  planned : forall plan, job.plan = .ok plan -> plan.IsUnder rules

/-- An entry about an action of one of some rules. -/
def Executor.Entry.IsUnder (rules : List Rule) (entry : Entry) : Prop :=
  entry.rule ∈ rules ∧ entry.action ∈ entry.rule.actions

/-- An execution on a ticket at a moment, ascribed to one of some rules in its version, of actions
of such rules. -/
structure Execution.IsUnder (rules : List Rule) (ticketId : String) (matchedAt : Instant)
    (execution : Execution) : Prop where
  about : execution.ticketId = ticketId
  at_ : execution.matchedAt = matchedAt
  rule : Exists fun rule => rule ∈ rules ∧ execution.ruleId = rule.id ∧
    execution.ruleVersion = rule.version
  actions : forall action, action ∈ execution.actions ->
    Exists fun rule => rule ∈ rules ∧ action ∈ rule.actions

namespace Executor

variable {rules : List Rule} {ticketId : String} {matchedAt : Instant} {cycleId : Option String}

/-- What a group of entries stands for is ascribed to their rule. -/
theorem isUnder_of_groups {entries : List Entry}
    (under : forall entry, entry ∈ entries -> entry.IsUnder rules) {group : Group}
    (member : group ∈ groups entries) (recordId : String) :
    (group.execution recordId ticketId matchedAt cycleId).IsUnder rules ticketId matchedAt := by
  have gathers := gathers_groups entries
  rcases gathers.known group member with ⟨entry, inside, same⟩
  refine ⟨rfl, rfl, ⟨group.rule, ?_, rfl, rfl⟩, fun action listed => ?_⟩
  · rw [same]
    exact (under entry inside).1
  · have acts : action ∈ group.actions := listed
    rw [gathers.actions group member] at acts
    rcases mem_actionsUnder.mp acts with ⟨source, there, _, rfl⟩
    exact ⟨source.rule, (under source there).1, (under source there).2⟩

theorem entryOf_isUnder {planned : List Planned} {outcome : Outcome} {error : Option String}
    (under : forall one, one ∈ planned -> one.rule ∈ rules ∧ one.action ∈ one.rule.actions) :
    forall entry, entry ∈ planned.map (entryOf outcome error) -> entry.IsUnder rules := by
  intro entry member
  rcases List.mem_map.mp member with ⟨one, inside, rfl⟩
  exact under one inside

/-- Whatever is said of planned changes is about their rules. -/
theorem entriesOf_isUnder {mutations : List Planned}
    (under : forall one, one ∈ mutations -> one.rule ∈ rules ∧ one.action ∈ one.rule.actions)
    (answer : Except Fault (Ticket × Option (Except Fault Bool))) :
    forall entry, entry ∈ (entriesOf mutations answer).2 -> entry.IsUnder rules := by
  have part {some : List Planned} (fewer : some ⊆ mutations) (outcome : Outcome)
      (error : Option String) :
      forall entry, entry ∈ some.map (entryOf outcome error) -> entry.IsUnder rules :=
    entryOf_isUnder fun one member => under one (fewer member)
  rcases answer with fault | ⟨live, _ | fault | written⟩
  · exact part (List.Subset.refl _) _ _
  · exact part List.filter_sublist.subset _ _
  · exact part (List.Subset.refl _) _ _
  · intro entry member
    rcases List.mem_append.mp member with skipped | rest
    · exact part List.filter_sublist.subset _ _ entry skipped
    · exact part List.filter_sublist.subset _ _ entry rest

variable {S : Type} {steps : Tickets.Stepwise S} {executor : Executor S}

theorem mutationSteps_answers {mutations : List Planned}
    (under : forall one, one ∈ mutations -> one.rule ∈ rules ∧ one.action ∈ one.rule.actions) :
    (mutationSteps steps ticketId mutations).Answers fun answer =>
      forall entry, entry ∈ answer.2 -> entry.IsUnder rules := by
  unfold mutationSteps
  split
  · exact .ok fun _ inside => absurd inside List.not_mem_nil
  · exact .bindAny fun answer => .ok (entriesOf_isUnder under answer)

theorem notificationSteps_answers {notifications : List Planned}
    (under : forall one, one ∈ notifications -> one.rule ∈ rules ∧ one.action ∈ one.rule.actions)
    (live : Option Ticket) (entries : List Entry) :
    (notificationSteps steps executor ticketId live entries notifications).Answers fun sent =>
      forall entry, entry ∈ sent -> entry.IsUnder rules := by
  unfold notificationSteps
  split
  · exact .ok fun _ inside => absurd inside List.not_mem_nil
  · exact .bindAny fun ticket => .bindAny fun _ => .ok (entryOf_isUnder under)

theorem drawingSteps_answers {gathered : List Group}
    (under : forall group, group ∈ gathered -> forall recordId,
      (group.execution recordId ticketId matchedAt cycleId).IsUnder rules ticketId matchedAt) :
    (drawingSteps executor ticketId matchedAt cycleId gathered).Answers fun executions =>
      forall execution, execution ∈ executions -> execution.IsUnder rules ticketId matchedAt := by
  induction gathered with
  | nil => exact .ok fun _ inside => absurd inside List.not_mem_nil
  | cons group rest inductionHypothesis =>
      refine .bindAny fun recordId => ?_
      refine (inductionHypothesis fun other member => under other
        (List.mem_cons_of_mem _ member)).bind fun executions known => .ok ?_
      intro execution member
      rcases List.mem_cons.mp member with rfl | later
      · exact under group List.mem_cons_self recordId
      · exact known execution later

/-- Carrying out a plan tells of its rules only. -/
theorem applySteps_answers {plan : Plan} (under : plan.IsUnder rules) :
    (applySteps steps executor ticketId plan matchedAt cycleId).Answers fun executions =>
      forall execution, execution ∈ executions -> execution.IsUnder rules ticketId matchedAt := by
  refine (mutationSteps_answers under.mutations).bind fun changed changes => ?_
  refine (notificationSteps_answers under.notifications changed.1 _).bind fun sent notes => ?_
  refine drawingSteps_answers fun group member recordId => isUnder_of_groups ?_ member recordId
  intro entry listed
  rcases List.mem_append.mp listed with before | sent_
  · rcases List.mem_append.mp before with made | lost
    · exact changes entry made
    · rcases List.mem_map.mp lost with ⟨superseded, inside, rfl⟩
      exact under.superseded superseded inside
  · exact notes entry sent_

end Executor

/-! ## Crews -/

namespace Cycle.Crew

variable {S : Type} {toDo : Job -> Script S Done} {rules : List Rule} {crew next : Crew S}

/-- A crew at jobs that are about some rules only. -/
structure IsUnder (toDo : Job -> Script S Done) (rules : List Rule) (crew : Crew S) : Prop where
  accounts : Exists fun jobs => Exists fun first => Accounts jobs first crew ∧
    forall job, job ∈ jobs -> job.IsUnder rules
  isTrue : crew.IsTrue toDo

theorem IsUnder.step (under : crew.IsUnder toDo rules) (step : Step toDo crew next) :
    next.IsUnder toDo rules := by
  rcases under.accounts with ⟨jobs, first, accounts, all⟩
  exact ⟨⟨jobs, first, accounts.step step, all⟩, under.isTrue.reaches (.single step)⟩

/-- Whatever others do in the meantime, the jobs are about the same rules. -/
theorem IsUnder.elsewhere (under : crew.IsUnder toDo rules) (world : S) :
    IsUnder toDo rules { crew with flow := { crew.flow with world } } := by
  rcases under.accounts with ⟨jobs, first, accounts, all⟩
  exact ⟨⟨jobs, first, ⟨accounts.all, accounts.report, accounts.some, accounts.home⟩, all⟩,
    under.isTrue.busy, under.isTrue.done⟩

end Cycle.Crew

/-! ## Jobs -/

namespace Workplace

variable {S : Type} {place : Workplace S} {engine : Engine} {rules : List Rule} {job : Job}

/-- Where sorting out and deciding answer, they answer as the engine would. -/
structure IsHonest (place : Workplace S) (engine : Engine) : Prop where
  sortOut : forall rules ticket now state matching,
    ((place.sortOut rules ticket now).perform state).1 = .ok matching ->
      matching = Matching.of engine.scale rules ticket now
  resolve : forall ticket matching state plan,
    ((place.resolve ticket matching).perform state).1 = .ok plan ->
      plan = Plan.resolve ticket.id matching.firing matching.holding

theorem own_isHonest (engine : Engine) : (own engine).IsHonest engine :=
  ⟨fun _ _ _ _ _ answered => (Except.ok.inj answered).symm,
    fun _ _ _ _ answered => (Except.ok.inj answered).symm⟩

/-- The executions of a job that failed as a whole are ascribed to the rules that fired. -/
theorem failedExecutions_isUnder {firing : List Rule} (fired : firing ⊆ rules)
    {ticketId reason : String} {matchedAt : Instant} {cycleId : String} {state : S}
    {executions : List Execution}
    (answered : ((Cycle.failedExecutions (place.desk engine) ticketId reason matchedAt cycleId
      firing).perform state).1 = .ok executions) :
    forall execution, execution ∈ executions -> execution.IsUnder rules ticketId matchedAt := by
  rcases @failedExecutions_answers S place engine ticketId reason matchedAt cycleId firing state
    with ⟨_, surely, same⟩
  cases surely.symm.trans answered
  intro execution member
  rcases List.mem_map.mp (same ▸ List.mem_map_of_mem member) with ⟨rule, inside, made⟩
  have listed := fired inside
  have actions : rule.actions = execution.actions := congrArg Execution.actions made
  refine ⟨(congrArg Execution.ticketId made).symm, (congrArg Execution.matchedAt made).symm,
    ⟨rule, listed, (congrArg Execution.ruleId made).symm,
      (congrArg Execution.ruleVersion made).symm⟩, fun action acts => ⟨rule, listed, ?_⟩⟩
  rw [actions]
  exact acts

/-- A job tells of its rules only. -/
theorem toDo_answers_under (under : job.IsUnder rules) (matchedAt : Instant) (cycleId : String) :
    (place.toDo engine matchedAt cycleId job).Answers fun done =>
      forall execution, execution ∈ done.executions ->
        execution.IsUnder rules job.ticket.id matchedAt := by
  have attempts : (place.attemptSteps matchedAt cycleId job).Answers fun answer =>
      forall executions, answer = .ok executions -> forall execution, execution ∈ executions ->
        execution.IsUnder rules job.ticket.id matchedAt := by
    unfold attemptSteps
    cases planned : job.plan with
    | error reason => exact .ok nofun
    | ok plan =>
        refine Script.Answers.andThen (.bindAny fun _ =>
          Executor.applySteps_answers (under.planned plan planned)) fun result known => .ok ?_
        intro executions same
        cases result with
        | error failure => cases same
        | ok executions_ =>
            cases same
            exact known executions rfl
  have makes : ((place.attemptSteps matchedAt cycleId job).bind
      (place.executionSteps engine matchedAt cycleId job)).Answers fun executions =>
        forall execution, execution ∈ executions ->
          execution.IsUnder rules job.ticket.id matchedAt := by
    refine attempts.bind fun answer known => ?_
    cases answer with
    | ok executions => exact .ok (known executions rfl)
    | error reason =>
        exact .one fun state executions answered =>
          failedExecutions_isUnder under.firing answered
  exact makes.bind fun executions known => .bindAny fun auditFailures => .ok known

/-! ## Shifts -/

variable {turn : Turn S} {workers : Int}

section Honest

variable (honest : place.IsHonest engine)

include honest

/-- Hits are about the rules that were sorted out, and so are the jobs that failed at it. -/
theorem sortOut_under {desk : Desk S} (asks : desk.sortOut = place.sortOut) {now : Instant}
    {tickets : List Ticket} {state after : S} {hits : List Hit} {failed : List Job}
    (sorts : (Cycle.sortOut desk rules now tickets).perform state = (.ok (hits, failed), after)) :
    (forall hit, hit ∈ hits -> hit.matching.firing ⊆ rules ∧ hit.matching.holding ⊆ rules) ∧
      forall job, job ∈ failed -> job.IsUnder rules := by
  induction tickets generalizing state hits failed with
  | nil =>
      cases sorts
      exact ⟨fun _ inside => absurd inside List.not_mem_nil,
        fun _ inside => absurd inside List.not_mem_nil⟩
  | cons ticket rest inductionHypothesis =>
      rcases Cycle.of_sortOut_cons sorts with ⟨laterHits, laterFailed, later, rfl, rfl⟩
      rcases inductionHypothesis later with ⟨hits, failed⟩
      rw [asks]
      cases result : ((place.sortOut rules ticket now).perform state).1 with
      | error failure =>
          refine ⟨hits, fun job member => ?_⟩
          rcases List.mem_cons.mp member with rfl | behind
          · exact ⟨List.Subset.refl _, nofun⟩
          · exact failed job behind
      | ok matching =>
          refine ⟨fun hit member => ?_, failed⟩
          rcases List.mem_append.mp member with here | behind
          · rw [Cycle.hitsFrom] at here
            split at here
            next => cases here
            next =>
                rw [List.mem_singleton.mp here, honest.sortOut _ _ _ _ _ result]
                exact Matching.of_subset engine.scale rules ticket now
          · exact hits hit behind

theorem resolve_under {desk : Desk S} (asks : desk.resolve = place.resolve) {hits : List Hit}
    {jobs : List Job} {state after : S}
    (under : forall hit, hit ∈ hits ->
      hit.matching.firing ⊆ rules ∧ hit.matching.holding ⊆ rules)
    (decides : (Cycle.resolve desk hits).perform state = (.ok jobs, after)) :
    forall job, job ∈ jobs -> job.IsUnder rules := by
  induction hits generalizing state jobs with
  | nil =>
      cases decides
      exact fun _ inside => absurd inside List.not_mem_nil
  | cons hit rest inductionHypothesis =>
      rcases Cycle.of_resolve_cons decides with ⟨later, behind, rfl⟩
      have known := inductionHypothesis (fun other member => under other
        (List.mem_cons_of_mem _ member)) behind
      intro job member
      rcases List.mem_cons.mp member with rfl | after
      · rcases under hit List.mem_cons_self with ⟨fires, holds⟩
        refine ⟨fires, fun plan planned => ?_⟩
        rw [asks] at planned
        have answered := Result.mapError_eq_ok_iff.mp planned
        rw [honest.resolve _ _ _ _ answered]
        exact Plan.resolve_isUnder hit.ticket.id fires holds
      · exact known job after

/-- The jobs of a shift are about rules that the shift has read. -/
theorem jobs_under (shift : place.ShiftAt engine turn workers) :
    forall job, job ∈ shift.jobs -> job.IsUnder shift.rules := by
  rcases shift.stages with ⟨hits, failed, sorted, jobs, sorts, decides, made, _⟩
  rcases sortOut_under honest rfl sorts with ⟨hits_, failed_⟩
  intro job member
  rw [made] at member
  rcases List.mem_append.mp member with inside | inside
  · exact failed_ job inside
  · exact resolve_under honest rfl hits_ decides job inside

/-- A crew that is about to begin is at jobs about the rules that were read. -/
theorem start_isUnder (shift : place.ShiftAt engine turn workers) :
    (Crew.start workers shift.jobs shift.prepared).IsUnder
      (place.toDo engine (turn.startedAt (place.desk engine)).instant
        (turn.cycleId (place.desk engine))) shift.rules := by
  refine ⟨⟨shift.jobs, _, Crew.start_accounts workers shift.jobs shift.prepared,
    jobs_under honest shift⟩, Crew.start_isTrue _ workers shift.jobs shift.prepared⟩

end Honest

/-- Every execution of a crew is ascribed to a rule that its jobs are about. -/
theorem executions_under {matchedAt : Instant} {cycleId : String} {crew : Crew S}
    (under : crew.IsUnder (place.toDo engine matchedAt cycleId) rules) {job : Job} {done : Done}
    (member : (job, done) ∈ crew.done) : forall execution, execution ∈ done.executions ->
      execution.IsUnder rules job.ticket.id matchedAt := by
  rcases under.accounts with ⟨jobs, first, accounts, all⟩
  have listed : job ∈ jobs := accounts.all.mem_iff.mp
    (List.mem_append_left _ (List.mem_map_of_mem member))
  rcases under.isTrue.done job done member with ⟨state, comes⟩
  exact (toDo_answers_under (all job listed) matchedAt cycleId).of_comes comes

end Workplace
end Triage
