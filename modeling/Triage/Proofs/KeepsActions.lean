import Triage.Proofs.Beginning
import Triage.Proofs.Listing

namespace Triage

/-!
# No action is lost or made up

On their way from the rules that fire on a ticket to what is recorded about it, actions pass
through a choice between rivals, a look at what is in place, a write that may fail and a grouping
by rule, outcome and winner.  None of these steps drops an action or takes one twice: each of them
lists the same actions as the one before it, with their repetitions.

This does not depend on how the store or the messages behave, nor on whether the work fails as a
whole.  The rules and the ticket decide what is recorded, and everything else only decides under
which outcome.
-/

/-- An action under the id of its rule. -/
def Planned.named (planned : Planned) : String × Action := (planned.rule.id, planned.action)

namespace Executor

/-! ## What became of a plan -/

/-- The action that an entry is about. -/
def Entry.planned (entry : Entry) : Planned := ⟨entry.rule, entry.action⟩

theorem planned_entryOf (outcome : Outcome) (error : Option String) (planned : List Planned) :
    (planned.map (entryOf outcome error)).map Entry.planned = planned := by
  rw [List.map_map]
  exact List.map_id planned

section Course

variable {S : Type} {store : Tickets.Store S} {ticketId : String} {mutations : List Planned}
  {course : Course} {state after : S}

/-- Whatever course the changes take, each of them is accounted for once. -/
theorem Went.planned_changes (went : Went store ticketId mutations course state after) :
    ((course.changes mutations).map Entry.planned).Perm mutations := by
  have parts (live : Ticket) : (settled live mutations ++ pending live mutations).Perm mutations :=
    List.filter_append_perm _ _
  cases went with
  | nothing none_ =>
      rw [none_]
      exact List.Perm.nil
  | unread _ => rw [Course.changes, failedEntries, planned_entryOf]
  | @inPlace live _ _ _ none_ =>
      have all := parts live
      rw [none_, List.append_nil] at all
      rw [Course.changes, planned_entryOf]
      exact all
  | @wrote live answer _ _ _ _ _ _ =>
      cases answer with
      | error fault => rw [Course.changes, failedEntries, planned_entryOf]
      | ok written =>
          rw [Course.changes, List.map_append, planned_entryOf, planned_entryOf]
          exact parts live

/-- The entries of a plan are about exactly the actions that it lists. -/
theorem Went.planned_entries {plan : Plan}
    (went : Went store ticketId plan.mutations course state after) :
    ((course.entries plan).map Entry.planned).Perm plan.listed := by
  have lost : (plan.superseded.map entryOfSuperseded).map Entry.planned =
      plan.superseded.map Superseded.planned := by
    rw [List.map_map]
    rfl
  rw [Course.entries, List.map_append, List.map_append, planned_entryOf, lost]
  exact (went.planned_changes.append_right _).append_right _

end Course

/-! ## Groups -/

/-- The actions of a group under the id of its rule. -/
def Group.named (group : Group) : List (String × Action) :=
  group.actions.map (Prod.mk group.rule.id)

variable {gathered : List Group} {firing : List Rule}

/-- An entry that is placed adds its action to the groups. -/
theorem named_place (gathered : List Group) (entry : Entry) :
    ((place gathered entry).flatMap Group.named).Perm
      (gathered.flatMap Group.named ++ [entry.planned.named]) := by
  induction gathered with
  | nil => rfl
  | cons first rest inductionHypothesis =>
      rw [place]
      by_cases holds : first.holds entry = true
      · have ruleId : first.rule.id = entry.rule.id :=
          congrArg Heading.ruleId (Group.holds_iff.mp holds)
        have added : (first.add entry).named = first.named ++ [entry.planned.named] := by
          simp only [Group.named, Group.add, List.map_append, List.map_singleton, ruleId]
          rfl
        rw [if_pos holds, List.flatMap_cons, List.flatMap_cons, added]
        exact perm_snoc_append _ _ _
      · rw [if_neg holds, List.flatMap_cons, List.flatMap_cons, List.append_assoc]
        exact inductionHypothesis.append_left _

theorem named_foldl (gathered : List Group) (entries : List Entry) :
    ((entries.foldl place gathered).flatMap Group.named).Perm
      (gathered.flatMap Group.named ++ entries.map fun entry => entry.planned.named) := by
  induction entries generalizing gathered with
  | nil =>
      rw [List.map_nil, List.append_nil]
      rfl
  | cons entry rest inductionHypothesis =>
      have later := inductionHypothesis (place gathered entry)
      have first := (named_place gathered entry).append_right
        (rest.map fun entry => entry.planned.named)
      rw [List.append_assoc] at first
      exact later.trans first

instance : Std.TransCmp Group.order :=
  have _ofRules : Std.TransCmp fun a b : Group => a.rule.order b.rule :=
    { eq_swap := Std.OrientedCmp.eq_swap, isLE_trans := Std.TransCmp.isLE_trans }
  inferInstanceAs (Std.TransCmp (compareLex (fun a b : Group => a.rule.order b.rule)
    (compareOn fun group : Group => group.outcome.rank)))

/-- Groups that list the actions of some rules: each action once, and the groups in order. -/
structure Lists (firing : List Rule) (gathered : List Group) : Prop where
  actions : (gathered.flatMap Group.named).Perm ((Plan.sequence firing).map Planned.named)
  once : (gathered.map Group.heading).Nodup
  rules : forall group, group ∈ gathered -> group.rule ∈ firing
  sorted : gathered.Pairwise fun a b => (a.order b).isLE = true

/-- The groups of entries about the actions of some rules list those actions. -/
theorem lists_groups {entries : List Entry}
    (about : (entries.map Entry.planned).Perm (Plan.sequence firing)) :
    Lists firing (groups entries) := by
  have gathers := gathers_groups entries
  refine ⟨?_, gathers.once, ?_, pairwise_mergeSort_isLE _⟩
  · have sorted : ((groups entries).flatMap Group.named).Perm
        ((entries.foldl place []).flatMap Group.named) :=
      (List.mergeSort_perm _ _).flatMap_right _
    have named := about.map Planned.named
    rw [List.map_map] at named
    exact (sorted.trans (named_foldl [] entries)).trans named
  · intro group member
    rcases gathers.known group member with ⟨entry, inside, same⟩
    rw [same]
    have known : entry.planned ∈ Plan.sequence firing :=
      about.mem_iff.mp (List.mem_map_of_mem inside)
    exact (Plan.mem_sequence.mp known).1

/-- The group of a rule all of whose actions failed. -/
def Group.failed (reason : String) (rule : Rule) : Group :=
  ⟨rule, .failed, none, rule.actions, [reason]⟩

/-- The failed groups of rules in their order list the actions of these rules. -/
theorem lists_failed (distinct : (firing.map Rule.id).Nodup)
    (sorted : firing.Pairwise fun a b => (a.order b).isLE = true) (reason : String) :
    Lists firing (firing.map (Group.failed reason)) := by
  refine ⟨?_, ?_, ?_, ?_⟩
  · rw [List.flatMap_map, Plan.sequence, List.map_flatMap]
    simp only [List.map_map]
    rfl
  · have headings : (firing.map (Group.failed reason)).map Group.heading =
        (firing.map Rule.id).map fun id => ⟨id, .failed, none⟩ := by
      rw [List.map_map, List.map_map]
      rfl
    rw [headings]
    exact distinct.map fun _ _ same => congrArg Heading.ruleId same
  · intro group member
    rcases List.mem_map.mp member with ⟨rule, inside, rfl⟩
    exact inside
  · rw [List.pairwise_map]
    refine sorted.imp fun {a b} below => ?_
    have order : (Group.failed reason a).order (Group.failed reason b) = (a.order b).then .eq := rfl
    rw [order, Ordering.then_eq]
    exact below

/-! ## Executions -/

/-- Executions that tell of the actions of the rules that fire on a ticket. -/
structure Tells (firing : List Rule) (ticketId : String) (matchedAt : Instant)
    (cycleId : Option String) (executions : List Execution) : Prop where
  /-- Every action is told of as often as its rule has it. -/
  actions : (executions.flatMap fun execution =>
    execution.actions.map (Prod.mk execution.ruleId)).Perm
      (firing.flatMap fun rule => rule.actions.map (Prod.mk rule.id))
  once : (executions.map fun execution =>
    (execution.ruleId, execution.outcome, execution.supersededBy)).Nodup
  about : forall execution, execution ∈ executions -> execution.ticketId = ticketId ∧
    execution.matchedAt = matchedAt ∧ execution.cycleId = cycleId ∧ Exists fun rule =>
      rule ∈ firing ∧ rule.id = execution.ruleId ∧ rule.version = execution.ruleVersion
  sorted : executions.Pairwise fun a b => Exists fun one => Exists fun two =>
    one ∈ firing ∧ one.id = a.ruleId ∧ two ∈ firing ∧ two.id = b.ruleId ∧
      ((one.order two).then (compare a.outcome.rank b.outcome.rank)).isLE = true

/-- An execution for each group that lists the actions of rules tells of them. -/
theorem Lists.tells (lists : Lists firing gathered) {ticketId : String} {matchedAt : Instant}
    {cycleId : Option String} {executions : List Execution}
    (each : List.Forall₂ (fun group execution => Exists fun recordId =>
      execution = Group.execution group recordId ticketId matchedAt cycleId)
        gathered executions) :
    Tells firing ticketId matchedAt cycleId executions := by
  have same := unnumbered_of_groups each
  have told {B : Type} (view : Execution -> B)
      (blind : forall execution, view execution.unnumbered = view execution) :
      executions.map view =
        gathered.map fun group => view (group.execution "" ticketId matchedAt cycleId) := by
    have seen := congrArg (List.map view) same
    rw [List.map_map, List.map_map] at seen
    exact (List.map_congr_left fun execution _ => (blind execution).symm).trans seen
  refine ⟨?_, ?_, ?_, ?_⟩
  · have actions := lists.actions
    rw [Plan.sequence, List.map_flatMap] at actions
    simp only [List.map_map] at actions
    rw [List.flatMap_def, told _ fun _ => rfl, <- List.flatMap_def]
    exact actions
  · have injective : Function.Injective fun heading : Heading =>
        (heading.ruleId, heading.outcome, heading.winnerId) := by
      rintro ⟨ruleId, outcome, winnerId⟩ ⟨_, _, _⟩ equal
      cases equal
      rfl
    have once := lists.once.map injective
    rw [List.map_map] at once
    rw [told _ fun _ => rfl]
    exact once
  · intro execution member
    have source : execution.unnumbered ∈ gathered.map fun group =>
        group.execution "" ticketId matchedAt cycleId := same ▸ List.mem_map_of_mem member
    rcases List.mem_map.mp source with ⟨group, inside, equal⟩
    exact ⟨congrArg Execution.ticketId equal.symm, congrArg Execution.matchedAt equal.symm,
      congrArg Execution.cycleId equal.symm, group.rule, lists.rules group inside,
      congrArg Execution.ruleId equal, congrArg Execution.ruleVersion equal⟩
  · have sorted : (executions.map Execution.unnumbered).Pairwise fun a b =>
        Exists fun one => Exists fun two => one ∈ firing ∧ one.id = a.ruleId ∧ two ∈ firing ∧
          two.id = b.ruleId ∧
            ((one.order two).then (compare a.outcome.rank b.outcome.rank)).isLE = true := by
      rw [same, List.pairwise_map]
      refine lists.sorted.imp_of_mem fun {a b} first second below => ?_
      exact ⟨a.rule, b.rule, lists.rules a first, rfl, lists.rules b second, rfl, below⟩
    exact List.pairwise_map.mp sorted

end Executor

namespace Cycle

variable {S : Type} {desk : Desk S} {executor : Executor S}

/-! ## The work on one ticket -/

/-- Plans are carried out by an executor, unless carrying them out fails as a whole. -/
def CarriesOut (desk : Desk S) (executor : Executor S) : Prop :=
  forall ticketId plan matchedAt cycleId state,
    (desk.carryOut ticketId plan matchedAt cycleId).perform state =
        (executor.apply ticketId plan matchedAt cycleId).perform state ∨
      Exists fun failure => Exists fun after =>
        (desk.carryOut ticketId plan matchedAt cycleId).perform state = (.error failure, after)

/-- The job that some rules make on a ticket at some instant, with their plan or without any. -/
structure Job.IsMade (scale : PriorityScale) (rules : List Rule) (ticket : Ticket)
    (now : Instant) (job : Job) : Prop where
  ticket_eq : job.ticket = ticket
  firing_eq : job.firing = (Matching.of scale rules ticket now).firing
  plan_eq : forall plan, job.plan = .ok plan -> plan = Plan.onTicket scale rules ticket now

/-- All jobs of a cycle are made by its rules. -/
theorem Job.IsMade.of_mem_jobsOf {scale : PriorityScale} {rules : List Rule} {now : Instant}
    {tickets : List Ticket} {job : Job} (member : job ∈ jobsOf scale rules now tickets) :
    job.IsMade scale rules job.ticket now := by
  rcases mem_jobsOf.mp member with ⟨_, _, firing, planned⟩
  refine ⟨rfl, firing, fun plan same => ?_⟩
  rw [planned] at same
  exact (Except.ok.inj same).symm

/-- Noting that rules failed takes an execution for each of them. -/
theorem perform_failedExecutions (ticketId reason : String) (matchedAt : Instant)
    (cycleId : String) (rules : List Rule) (state : S) :
    Exists fun executions => Exists fun after =>
      (failedExecutions desk ticketId reason matchedAt cycleId rules).perform state =
        (.ok executions, after) ∧
      List.Forall₂ (fun group execution => Exists fun recordId =>
        execution = Executor.Group.execution group recordId ticketId matchedAt (some cycleId))
          (rules.map (Executor.Group.failed reason)) executions := by
  induction rules generalizing state with
  | nil => exact ⟨[], state, rfl, .nil⟩
  | cons rule rest inductionHypothesis =>
      rcases inductionHypothesis (desk.recordId state).2 with ⟨executions, after, drawn, each⟩
      refine ⟨_ :: executions, after, ?_, .cons ⟨(desk.recordId state).1, rfl⟩ each⟩
      rw [failedExecutions] at drawn
      rw [failedExecutions, Act.perform_mapM_cons, bind_assoc, Act.perform_draw_bind, pure_bind,
        Act.perform_map, drawn]
      rfl

/-- The rules that fire on a ticket are in their order. -/
theorem pairwise_firing (scale : PriorityScale) (rules : List Rule) (ticket : Ticket)
    (now : Instant) : (Matching.of scale rules ticket now).firing.Pairwise
      fun a b => (a.order b).isLE = true :=
  ((Rule.pairwise_ordered rules).filter _).filter _

theorem nodup_firing {scale : PriorityScale} {rules : List Rule} {ticket : Ticket}
    {now : Instant} (distinct : (rules.map Rule.id).Nodup) :
    ((Matching.of scale rules ticket now).firing.map Rule.id).Nodup := by
  have ordered : ((Rule.ordered rules).map Rule.id).Nodup :=
    ((Rule.ordered_perm rules).map Rule.id).nodup_iff.mpr distinct
  exact ordered.sublist ((List.filter_sublist.trans List.filter_sublist).map Rule.id)

/-- The plan of a job is carried out, and that tells of all actions, or else there is a reason. -/
theorem perform_attemptPlan (carriesOut : CarriesOut desk executor) {scale : PriorityScale}
    {rules : List Rule} {ticket : Ticket} {startedAt : Instant} {job : Job}
    (isMade : job.IsMade scale rules ticket startedAt) (cycleId : String) (state : S) :
    Exists fun answer => Exists fun between =>
      (attemptPlan desk job startedAt cycleId).perform state = (.ok answer, between) ∧
      forall executions, answer = .ok executions ->
        Executor.Tells (Matching.of scale rules ticket startedAt).firing ticket.id startedAt
          (some cycleId) executions := by
  rw [attemptPlan]
  cases planned : job.plan with
  | error reason =>
      refine ⟨.error reason, state, rfl, fun executions same => ?_⟩
      cases same
  | ok plan =>
      simp only [Act.perform_attempt_bind]
      rcases carriesOut job.ticket.id plan startedAt (some cycleId) state with
        same | ⟨failure, after, failed⟩
      · rcases Executor.perform_apply_groups executor.isQuiet_trivial job.ticket.id plan startedAt
          (some cycleId) state with ⟨course, between, executions, after, applied, went, _, each⟩
        refine ⟨.ok executions, after, ?_, ?_⟩
        · rw [same, applied]
          rfl
        · intro told same
          cases same
          have listed : plan.listed.Perm
              (Plan.sequence (Matching.of scale rules ticket startedAt).firing) := by
            rw [isMade.plan_eq plan planned]
            exact Plan.listed_resolve _ _ _
          rw [isMade.ticket_eq] at each
          exact (Executor.lists_groups (went.planned_entries.trans listed)).tells each
      · refine ⟨.error ("Ticket unit failed: " ++ failure.report), after, ?_, ?_⟩
        · rw [failed]
          rfl
        · intro told same
          cases same

/-- The executions that the work on a job hands to the trail. -/
def handed (desk : Desk S) (matchedAt : Instant) (cycleId : String) (job : Job) :
    Act S (List Execution) :=
  attemptPlan desk job matchedAt cycleId >>= fun
    | .ok executions => pure executions
    | .error reason => failedExecutions desk job.ticket.id reason matchedAt cycleId job.firing

theorem execute_eq (desk : Desk S) (matchedAt : Instant) (cycleId : String) (job : Job) :
    execute desk matchedAt cycleId job = handed desk matchedAt cycleId job >>= fun executions =>
      Done.mk job.ticket.id executions <$> recordAll desk executions := by
  simp only [execute, handed, bind_assoc, map_eq_pure_bind]
  refine congrArg (_ >>= ·) (funext fun answer => ?_)
  cases answer <;> rfl

/-- Whatever happens in the work on a ticket, it hands over executions that tell of the rules that
fire on it. -/
theorem handed_tells (carriesOut : CarriesOut desk executor) {scale : PriorityScale}
    {rules : List Rule} (distinct : (rules.map Rule.id).Nodup) {ticket : Ticket}
    {startedAt : Instant} {job : Job} (isMade : job.IsMade scale rules ticket startedAt)
    (cycleId : String) (state : S) :
    Exists fun executions => Exists fun between =>
      (handed desk startedAt cycleId job).perform state = (.ok executions, between) ∧
      Executor.Tells (Matching.of scale rules ticket startedAt).firing ticket.id startedAt
        (some cycleId) executions := by
  rcases perform_attemptPlan carriesOut isMade cycleId state with
    ⟨reason | executions, between, attempted, tells⟩
  · rcases @perform_failedExecutions S desk job.ticket.id reason startedAt cycleId job.firing
      between with ⟨executions, after, failed, each⟩
    refine ⟨executions, after, (Act.perform_bind_ok attempted).trans failed, ?_⟩
    rw [isMade.firing_eq, isMade.ticket_eq] at each
    exact (Executor.lists_failed (nodup_firing distinct) (pairwise_firing _ _ _ _) reason).tells
      each
  · exact ⟨executions, between, Act.perform_bind_ok attempted, tells executions rfl⟩

/--
The work on a ticket comes to noting executions, whatever its store and its messages do and even
if it fails as a whole.  The executions tell of every action of exactly the rules that fire on the
ticket, and of nothing that other rules would have done.
-/
theorem keeps_every_action (carriesOut : CarriesOut desk executor) {scale : PriorityScale}
    {rules : List Rule} (distinct : (rules.map Rule.id).Nodup) {ticket : Ticket}
    {startedAt : Instant} {job : Job} (isMade : job.IsMade scale rules ticket startedAt)
    (cycleId : String) (state : S) :
    Exists fun executions => Exists fun between =>
      (execute desk startedAt cycleId job).perform state =
        ((Done.mk ticket.id executions) <$> recordAll desk executions).perform between ∧
      Executor.Tells (Matching.of scale rules ticket startedAt).firing ticket.id startedAt
        (some cycleId) executions ∧
      forall rule, rule ∈ rules -> rule ∉ (Matching.of scale rules ticket startedAt).firing ->
        forall execution, execution ∈ executions -> execution.ruleId ≠ rule.id := by
  rcases handed_tells carriesOut distinct isMade cycleId state with
    ⟨executions, between, given, tells⟩
  refine ⟨executions, between, ?_, tells, ?_⟩
  · rw [execute_eq, Act.perform_bind_ok given, isMade.ticket_eq]
  · intro rule member idle execution noted same
    rcases (tells.about execution noted).2.2.2 with ⟨other, fires, named, _⟩
    have inside : other ∈ rules := (List.mem_filter.mp (Matching.mem_firing.mp fires).1).1
    have equal : other = rule :=
      List.inj_on_of_nodup_map distinct inside member (named.trans same)
    exact idle (equal ▸ fires)

/-- The rules of the small engine. -/
def sampleRules : List Rule := [Sample.early, Sample.late, Sample.later]

/-- The job that they make on its ticket. -/
def sampleJob : Job where
  ticket := Sample.ticket
  firing :=
    (Matching.of Sample.engine.scale sampleRules Sample.ticket Sample.noon.instant).firing
  plan := .ok (Plan.onTicket Sample.engine.scale sampleRules Sample.ticket Sample.noon.instant)

/-- Its desk, with a store that refuses the first write. -/
def refusingDesk : Desk (Drill.Stage World) :=
  Sample.engine.deskIn Drill.world Sample.engine.drilledTickets

/-- A write that is refused loses none of the actions. -/
theorem refused_keeps_every_action : Exists fun executions => Exists fun between =>
    (execute refusingDesk Sample.noon.instant "first" sampleJob).perform
        ⟨Sample.world sampleRules, [⟨.changeTicket, .answersFalse, none, some 1⟩]⟩ =
      ((Done.mk Sample.ticket.id executions) <$> recordAll refusingDesk executions).perform
        between ∧
    (executions.flatMap fun execution => execution.actions.map (Prod.mk execution.ruleId)).Perm
      [("early", ⟨.updatePriority, "High"⟩), ("late", ⟨.updatePriority, "Urgent"⟩),
        ("later", ⟨.updatePriority, "Medium"⟩), ("later", ⟨.sendNotification, "front desk"⟩)] := by
  have carriesOut : CarriesOut refusingDesk
      (Sample.engine.executor Drill.world Sample.engine.drilledTickets) :=
    fun _ _ _ _ _ => Or.inl rfl
  have isMade : sampleJob.IsMade Sample.engine.scale sampleRules Sample.ticket
      Sample.noon.instant := ⟨rfl, rfl, fun _ same => (Except.ok.inj same).symm⟩
  have fires : (Matching.of Sample.engine.scale sampleRules Sample.ticket
      Sample.noon.instant).firing.Perm sampleRules :=
    ((Rule.ordered_perm sampleRules).filter _).filter _
  rcases keeps_every_action carriesOut (by decide) isMade "first"
    ⟨Sample.world sampleRules, [⟨.changeTicket, .answersFalse, none, some 1⟩]⟩ with
    ⟨executions, between, executed, tells, _⟩
  exact ⟨executions, between, executed, tells.actions.trans (fires.flatMap_right _)⟩

end Cycle
end Triage
