import Triage.Proofs.Catalog
import Triage.Proofs.Hampered
import Triage.Proofs.Trail
import Triage.Proofs.Cycle

namespace Triage

/-!
# One job in the world

The job on a ticket reads the ticket again, writes to it at most once, and records what became of
the plan.  Through a store that may keep the engine from its tickets, the ticket of that id is
replaced exactly when the store took the write, and then it is the ticket as it was read with the
missing changes made; no other ticket is touched.  The trail grows by executions that account for
the plan, by all of them where none is counted as an audit failure.
-/

open Executor (Course Went Accounts pending)

namespace Plan

/-- A plan whose changes are about aspects, each aspect once, and whose targets are clean. -/
structure IsSound (plan : Plan) : Prop where
  acts : forall planned, planned ∈ plan.mutations ->
    Exists fun aspect => planned.action.aspect? = some aspect
  once : (plan.mutations.map fun planned => planned.action.aspect?).Nodup
  mutations : forall planned, planned ∈ plan.mutations -> planned.action.IsClean
  superseded : forall superseded, superseded ∈ plan.superseded -> superseded.action.IsClean
  notifications : forall planned, planned ∈ plan.notifications ->
    planned.action.IsClean ∧ planned.action.aspect? = none

/-- A plan of the resolver is sound, as long as the targets of all actions are clean. -/
theorem resolve_isSound {ticketId : String} {firing holding : List Rule}
    (clean : forall rule, rule ∈ firing ∨ rule ∈ holding -> forall action,
      action ∈ rule.actions -> action.IsClean) : (resolve ticketId firing holding).IsSound := by
  refine ⟨fun planned member => acts_of_mem_mutations member, aspects_mutations _ _ _, ?_, ?_, ?_⟩
  · intro planned member
    rcases mem_rules_of_mutation member with ⟨source, inside⟩
    exact clean planned.rule source planned.action inside
  · intro lost member
    rcases mem_rules_of_superseded member with ⟨source, inside⟩
    exact clean lost.rule source lost.action inside
  · intro planned member
    rcases mem_rules_of_notification member with ⟨source, inside, plain⟩
    exact ⟨clean planned.rule source planned.action inside, plain⟩

/-- The plan for a ticket is sound, as long as the targets of all actions are clean. -/
theorem onTicket_isSound {scale : PriorityScale} {rules : List Rule} {ticket : Ticket}
    {now : Instant}
    (clean : forall rule, rule ∈ rules -> forall action, action ∈ rule.actions -> action.IsClean) :
    (onTicket scale rules ticket now).IsSound := by
  refine resolve_isSound fun rule matched => clean rule ?_
  rcases matched with fires | holds
  · exact (List.mem_filter.mp (Matching.mem_firing.mp fires).1).1
  · exact (List.mem_filter.mp (Matching.mem_holding.mp holds).1).1

/-- What a plan sets are its targets. -/
theorem mem_updates {planned : List Planned} {update : Aspect × String} :
    update ∈ updates planned ↔ Exists fun member => member ∈ planned ∧
      member.action.aspect? = some update.1 ∧ member.action.target = update.2 := by
  rw [updates, List.mem_filterMap]
  constructor
  · rintro ⟨member, inside, made⟩
    rcases Option.map_eq_some_iff.mp made with ⟨aspect, acts, rfl⟩
    exact ⟨member, inside, acts, rfl⟩
  · rintro ⟨member, inside, acts, target⟩
    refine ⟨member, inside, ?_⟩
    rw [acts, target]
    rfl

end Plan

namespace Executor

variable {plan : Plan} {live : Ticket} {course : Course}

/-- The ticket that a course leaves at some time, where it changed the ticket. -/
def Course.result (mutations : List Planned) (now : Stamp) : Course -> Option Ticket
  | .wrote live (.ok true) =>
      some (Engine.written now (Plan.updates (pending live mutations)) live)
  | _ => none

theorem mem_pending {mutations : List Planned} {planned : Planned} :
    planned ∈ pending live mutations ↔
      planned ∈ mutations ∧ Rule.isInPlace live planned.action = false := by
  rw [pending, List.mem_filter, Bool.not_eq_true']

/-- What is missing of a sound plan is something to write. -/
theorem updates_ne_nil (sound : plan.IsSound) (missing : pending live plan.mutations ≠ []) :
    Plan.updates (pending live plan.mutations) ≠ [] := by
  rcases List.exists_mem_of_ne_nil _ missing with ⟨planned, member⟩
  rcases sound.acts planned (mem_pending.mp member).1 with ⟨aspect, acts⟩
  have update : (aspect, planned.action.target) ∈ Plan.updates (pending live plan.mutations) :=
    Plan.mem_updates.mpr ⟨planned, member, acts, rfl⟩
  exact List.ne_nil_of_mem update

theorem isClean_updates (sound : plan.IsSound) :
    forall update, update ∈ Plan.updates (pending live plan.mutations) ->
      Text.IsClean update.2 := by
  intro update member
  rcases Plan.mem_updates.mp member with ⟨planned, inside, _, target⟩
  have clean : Text.IsClean planned.action.target :=
    sound.mutations planned (mem_pending.mp inside).1
  exact target ▸ clean

theorem action_of_entryOf {outcome : Outcome} {error : Option String} {planned : List Planned}
    {entry : Entry} (member : entry ∈ planned.map (entryOf outcome error)) :
    Exists fun source => source ∈ planned ∧ entry.action = source.action ∧
      entry.rule = source.rule ∧ entry.outcome = outcome ∧ entry.winnerId = none := by
  rcases List.mem_map.mp member with ⟨source, inside, rfl⟩
  exact ⟨source, inside, rfl, rfl, rfl, rfl⟩

/-- Every entry about a change is about one of the plan. -/
theorem Course.mem_changes {mutations : List Planned} {entry : Entry}
    (member : entry ∈ course.changes mutations) : Exists fun planned =>
      planned ∈ mutations ∧ entry.action = planned.action ∧ entry.rule = planned.rule ∧
        entry.winnerId = none := by
  have known {outcome : Outcome} {error : Option String} {some_ : List Planned}
      (part : forall planned, planned ∈ some_ -> planned ∈ mutations)
      (inside : entry ∈ some_.map (entryOf outcome error)) : Exists fun planned =>
        planned ∈ mutations ∧ entry.action = planned.action ∧ entry.rule = planned.rule ∧
          entry.winnerId = none := by
    rcases action_of_entryOf inside with ⟨planned, source, action, rule, _, winner⟩
    exact ⟨planned, part planned source, action, rule, winner⟩
  have settled_ (live : Ticket) : forall planned, planned ∈ settled live mutations ->
      planned ∈ mutations := fun _ inside => (List.mem_filter.mp inside).1
  have pending_ (live : Ticket) : forall planned, planned ∈ pending live mutations ->
      planned ∈ mutations := fun _ inside => (List.mem_filter.mp inside).1
  cases course with
  | nothing => cases member
  | unread fault => exact known (fun _ inside => inside) member
  | inPlace live => exact known (settled_ live) member
  | wrote live answer =>
      cases answer with
      | error fault => exact known (fun _ inside => inside) member
      | ok written =>
          rcases List.mem_append.mp member with done | missing
          · exact known (settled_ live) done
          · exact known (pending_ live) missing

/-- The actions of executions that account for a sound plan have clean targets. -/
theorem Accounts.isClean {ticketId : String} {matchedAt : Instant} {cycleId : Option String}
    {executions : List Execution} (sound : plan.IsSound)
    (accounts : Accounts ticketId matchedAt cycleId (course.entries plan) executions) :
    forall execution, execution ∈ executions -> forall action, action ∈ execution.actions ->
      action.IsClean := by
  intro execution member action inside
  rw [accounts.actions execution member] at inside
  rcases mem_actionsUnder.mp inside with ⟨entry, known, _, rfl⟩
  rcases List.mem_append.mp known with before | sent
  · rcases List.mem_append.mp before with change | lost
    · rcases Course.mem_changes change with ⟨planned, source, action, _⟩
      rw [action]
      exact sound.mutations planned source
    · rcases List.mem_map.mp lost with ⟨superseded, source, rfl⟩
      exact sound.superseded superseded source
  · rcases action_of_entryOf sent with ⟨planned, source, action, _⟩
    rw [action]
    exact (sound.notifications planned source).1

end Executor

/-! ## The world after a course -/

namespace Engine

variable {S : Type} {engine : Engine} {part : Part S World} {store : Tickets.Store S}

/-- From one world to the next, the changes of a plan were carried out on a ticket. -/
structure Carries (engine : Engine) (ticketId : String) (plan : Plan) (course : Course)
    (before after : World) : Prop where
  ready : engine.IsReady after
  clock : after.clock = before.clock
  rules : after.ruleRows = before.ruleRows
  trail : after.trailRows = before.trailRows
  read : forall live, course.live = some live -> engine.held before ticketId = .ok (some live)
  held : forall id, engine.held after id =
    match course.result plan.mutations before.clock with
    | some ticket => if id = ticketId then .ok (some ticket) else engine.held before id
    | none => engine.held before id

/-- What is unseen changes neither the clock nor any table. -/
theorem same_of_standing {before after : World} (same : after.standing = before.standing) :
    after.clock = before.clock ∧ after.stock = before.stock ∧
      after.ruleRows = before.ruleRows ∧ after.trailRows = before.trailRows := by
  have data : after.database.data = before.database.data := by
    have seen := congrArg (fun world : World => world.database.data) same
    exact seen
  have shelf : after.shelf = before.shelf := by
    have seen := congrArg World.shelf same
    exact seen
  have clock := congrArg World.clock same
  refine ⟨clock, ?_, ?_, ?_⟩
  · rw [World.stock, World.stock, shelf, data]
  · rw [World.ruleRows, World.ruleRows, data]
  · rw [World.trailRows, World.trailRows, data]

theorem held_of_stock {before after : World} (same : after.stock = before.stock) (id : String) :
    engine.held after id = engine.held before id := by rw [held, held, same]

theorem isOpen_of_stock {before after : World} (same : after.stock = before.stock) (id : String) :
    engine.isOpen after id = engine.isOpen before id := by rw [isOpen, isOpen, same]

theorem IsReady.of_standing {before after : World} (ready : engine.IsReady before)
    (unseen : World.Leaves World.standing before after) : engine.IsReady after := by
  rcases unseen ready.calm with ⟨calm, same⟩
  rcases same_of_standing same with ⟨clock, stock, _⟩
  exact ⟨calm, clock ▸ ready.utc, stock ▸ ready.sound⟩

namespace Carries

variable {ticketId : String} {plan : Plan} {course : Course} {before after : World}

/-- Without a write that the store took, everything stands. -/
theorem of_unseen (ready : engine.IsReady before)
    (unseen : World.Leaves World.standing before after)
    (read : forall live, course.live = some live -> engine.held before ticketId = .ok (some live))
    (kept : course.result plan.mutations before.clock = none) :
    engine.Carries ticketId plan course before after := by
  rcases same_of_standing (unseen ready.calm).2 with ⟨clock, stock, rules, trail⟩
  refine ⟨ready.of_standing unseen, clock, rules, trail, read, ?_⟩
  intro id
  rw [kept]
  exact held_of_stock stock id

/-- Before and after there may be more that is unseen. -/
theorem after_unseen (carries : engine.Carries ticketId plan course before after) {later : World}
    (unseen : World.Leaves World.standing after later) :
    engine.Carries ticketId plan course before later := by
  rcases same_of_standing (unseen carries.ready.calm).2 with ⟨clock, stock, rules, trail⟩
  refine ⟨carries.ready.of_standing unseen, clock.trans carries.clock, rules.trans carries.rules,
    trail.trans carries.trail, carries.read, ?_⟩
  intro id
  rw [held_of_stock stock]
  exact carries.held id

end Carries

/-- A ticket that was read through a hampered store is the one in the stock. -/
theorem Hampers.held_of_find (hampers : engine.Hampers part store) {id : String} {live : Ticket}
    {state after : S} (calm : (part.get state).IsCalm)
    (found : (store.find id).perform state = (.ok (some live), after)) :
    engine.held (part.get state) id = .ok (some live) := by
  rcases hampers.find id state with ⟨answered, _⟩ | ⟨failed | missing, _⟩
  · rw [found, (perform_find calm id).1] at answered
    exact answered.symm
  · rw [found] at failed
    rcases failed with ⟨failure, failed⟩
    cases failed
  · rw [found] at missing
    cases missing

/-- A write that the store took replaces the ticket and touches nothing else. -/
theorem writes_carries {before between after : World} {ticketId : String} {plan : Plan}
    {live : Ticket} (ready : engine.IsReady before)
    (unseen : World.Leaves World.standing before between)
    (known : engine.held before ticketId = .ok (some live))
    (wrote : engine.Writes ticketId
      (written between.clock (Plan.updates (pending live plan.mutations)) live) between after) :
    engine.Carries ticketId plan (.wrote live (.ok true)) before after := by
  rcases same_of_standing (unseen ready.calm).2 with ⟨clock, stock, rules, trail⟩
  have data := congrArg (fun world : World => world.database.data) wrote.aside
  have rulesKept := congrArg Database.Tables.rules data
  have trailKept := congrArg Database.Tables.executions data
  have now := congrArg World.clock wrote.aside
  refine ⟨wrote.ready, now.trans clock, rulesKept.trans rules, trailKept.trans trail, ?_, ?_⟩
  · intro other same
    cases same
    exact known
  · intro id
    rw [wrote.held id, held_of_stock stock id, clock]
    rfl

/-- Whatever course the changes take, this is what they do to the world. -/
theorem Hampers.carries (hampers : engine.Hampers part store) {ticketId : String} {plan : Plan}
    (sound : plan.IsSound) {course : Course} {state after : S}
    (ready : engine.IsReady (part.get state))
    (went : Went store ticketId plan.mutations course state after) :
    engine.Carries ticketId plan course (part.get state) (part.get after) := by
  have rereading (result : Except Executor.Fault Ticket) (between : S)
      (read : (Executor.reread store ticketId).perform state = (.ok result, between)) :
      World.Leaves World.standing (part.get state) (part.get between) := by
    rcases Executor.perform_reread store ticketId state with ⟨other, final, again, same⟩
    rw [read] at again
    cases again
    rw [same]
    exact hampers.find_unseen ticketId state
  cases went with
  | nothing => exact .of_unseen ready (World.Leaves.refl _ _) (fun _ same => nomatch same) rfl
  | unread read => exact .of_unseen ready (rereading _ _ read) (fun _ same => nomatch same) rfl
  | @inPlace live _ _ read none_ =>
      refine .of_unseen ready (rereading _ _ read) ?_ rfl
      intro other same
      cases same
      exact hampers.held_of_find ready.calm (Executor.find_of_reread store ticketId state read)
  | @wrote live answer _ between _ read missing written_ =>
      have known := hampers.held_of_find ready.calm
        (Executor.find_of_reread store ticketId state read)
      have unseen := rereading _ _ read
      have own : engine.held (part.get between) live.id = .ok (some live) := by
        rw [held_of_stock (same_of_standing (unseen ready.calm).2).2.1, id_of_held known]
        exact known
      have performed := Executor.perform_write store between live (pending live plan.mutations)
      rw [written_] at performed
      rcases Prod.mk.inj performed with ⟨answered, ended⟩
      have answered := Except.ok.inj answered
      rcases hampers.change live.id (.ofAspects (Plan.updates (pending live plan.mutations)))
        (some live.updatedAt.instant) between with ⟨took, reached⟩ | ⟨kept, same⟩
      · rcases perform_change (ready.of_standing unseen) own (Executor.updates_ne_nil sound missing)
          (Executor.isClean_updates sound) with ⟨world, changed, writes⟩
        rw [changed] at took reached
        rw [Executor.writing, took] at answered
        subst answered
        rw [ended, Executor.writing, reached]
        rw [id_of_held known] at writes
        exact writes_carries ready unseen known writes
      · have none_ : (Course.wrote live answer).result plan.mutations (part.get state).clock =
            none := by
          rw [answered, Executor.writing]
          rcases kept with ⟨failure, failed⟩ | refused
          · rw [failed]
            rfl
          · rw [refused]
            rfl
        rw [<- same] at unseen
        rw [ended]
        refine .of_unseen ready unseen ?_ none_
        intro other equal
        cases equal
        exact known

/-- Through a store that serves the ticket, the course is up to the ticket alone. -/
theorem Hampers.isOn (hampers : engine.Hampers part store) {ticketId : String}
    (serves : engine.Serves part store ticketId) {plan : Plan} (sound : plan.IsSound)
    {course : Course} {state after : S}
    (ready : engine.IsReady (part.get state)) {ticket : Ticket}
    (known : engine.held (part.get state) ticketId = .ok (some ticket))
    (went : Went store ticketId plan.mutations course state after) :
    course.IsOn ticket plan.mutations := by
  have found : (store.find ticketId).perform state =
      (.ok (some ticket), ((store.find ticketId).perform state).2) := by
    refine Prod.ext ?_ rfl
    rw [serves.find, (perform_find ready.calm ticketId).1]
    exact known
  have reread := Executor.reread_of_find store ticketId state found
  cases went with
  | nothing none_ => exact Or.inl ⟨by rw [none_]; rfl, Or.inl rfl⟩
  | unread read =>
      rw [reread] at read
      cases read
  | inPlace read none_ =>
      rw [reread] at read
      cases read
      exact Or.inl ⟨none_, Or.inr rfl⟩
  | @wrote live answer _ between _ read missing written_ =>
      rw [reread] at read
      cases read
      have unseen := hampers.find_unseen ticketId state
      have own : engine.held (part.get ((store.find ticketId).perform state).2) ticket.id =
          .ok (some ticket) := by
        rw [held_of_stock (same_of_standing (unseen ready.calm).2).2.1, id_of_held known]
        exact known
      have performed := Executor.perform_write store ((store.find ticketId).perform state).2 ticket
        (pending ticket plan.mutations)
      rw [written_] at performed
      have answered := Except.ok.inj (Prod.mk.inj performed).1
      rw [<- id_of_held known] at serves
      rcases perform_change (ready.of_standing unseen) own (Executor.updates_ne_nil sound missing)
        (Executor.isClean_updates sound) with ⟨world, changed, _⟩
      rw [Executor.writing, serves.change, changed] at answered
      subst answered
      exact Or.inr ⟨missing, rfl⟩

/-! ## Recording -/

/-- The trail grew by some of the executions, by all of them without a failure. -/
structure Notes (executions : List Execution) (failures : Nat) (before after : World)
    (appended : List Execution) : Prop where
  calm : after.IsCalm
  aside : after.offTrail = before.offTrail
  grew : Trail.Grew before.trailRows after.trailRows appended
  some : appended.Sublist executions
  all : failures = 0 -> appended = executions

/-- Recording in the trail of an engine always comes to its end. -/
theorem perform_recordAll {desk : Desk S} (lawful : part.IsLawful)
    (trail : forall execution,
      desk.trail.record execution = part.perform (Engine.trail.record execution))
    {executions : List Execution}
    (clean : forall execution, execution ∈ executions -> forall action,
      action ∈ execution.actions -> action.IsClean) {state : S} (calm : (part.get state).IsCalm) :
    Exists fun failures => Exists fun after => Exists fun appended =>
      (Cycle.recordAll desk executions).perform state = (.ok failures, after) ∧
      Notes executions failures (part.get state) (part.get after) appended := by
  induction executions generalizing state with
  | nil => exact ⟨0, state, [], rfl, calm, rfl, Trail.Grew.refl _, .refl _, fun _ => rfl⟩
  | cons execution rest inductionHypothesis =>
      rcases World.perform_record calm (clean execution List.mem_cons_self) with
        ⟨result, world, recorded, still, aside, outcome⟩
      have first : (desk.trail.record execution).perform state = (result, part.set world state) := by
        rw [trail, Part.perform_perform, recorded]
      have seen : part.get (part.set world state) = world := lawful.get_set world state
      rcases inductionHypothesis (fun other member => clean other (List.mem_cons_of_mem _ member))
        (seen.symm ▸ still) with ⟨failures, after, appended, performed, notes⟩
      rw [seen] at notes
      rcases outcome with ⟨rfl, grew⟩ | ⟨⟨failure, rfl, audit⟩, grew⟩
      · refine ⟨failures, after, execution :: appended, ?_, notes.calm, notes.aside.trans aside,
          grew.trans notes.grew, notes.some.cons_cons execution, ?_⟩
        · rw [Cycle.recordAll, Act.perform_attempt_bind, first]
          exact performed
        · intro none_
          rw [notes.all none_]
      · refine ⟨failures + 1, after, appended, ?_, notes.calm, notes.aside.trans aside, ?_,
          notes.some.cons execution, nofun⟩
        · rw [Cycle.recordAll, Act.perform_attempt_bind, first]
          simp only [audit, if_true]
          rw [Act.perform_bind_ok performed]
          rfl
        · have together := grew.trans notes.grew
          exact together

/-! ## A whole job -/

/--
From one world to the next, the job on a ticket was done: its changes took a course, executions
account for its plan, and the trail grew by some of them.
-/
structure Handles (engine : Engine) (ticketId : String) (plan : Plan) (matchedAt : Instant)
    (cycleId : Option String) (before after : World) (done : Cycle.Done) (course : Course)
    (appended : List Execution) : Prop where
  ready : engine.IsReady after
  clock : after.clock = before.clock
  rules : after.ruleRows = before.ruleRows
  read : forall live, course.live = some live -> engine.held before ticketId = .ok (some live)
  held : forall id, engine.held after id =
    match course.result plan.mutations before.clock with
    | some ticket => if id = ticketId then .ok (some ticket) else engine.held before id
    | none => engine.held before id
  accounts : Accounts ticketId matchedAt cycleId (course.entries plan) done.executions
  grew : Trail.Grew before.trailRows after.trailRows appended
  some : appended.Sublist done.executions
  all : done.auditFailures = 0 -> appended = done.executions

/-- What is off the trail tells the clock, the stock and the rules. -/
theorem same_of_offTrail {before after : World} (same : after.offTrail = before.offTrail) :
    after.clock = before.clock ∧ after.stock = before.stock ∧ after.ruleRows = before.ruleRows := by
  have data := congrArg (fun world : World => world.database.data) same
  have tickets := congrArg Database.Tables.tickets data
  have rules := congrArg Database.Tables.rules data
  have shelf := congrArg World.shelf same
  have clock := congrArg World.clock same
  exact ⟨clock, Prod.ext shelf tickets, rules⟩

/-- A job of an engine can always be done, and this is what it does. -/
theorem Hampers.handles (hampers : engine.Hampers part store) (lawful : part.IsLawful)
    (turn : Cycle.Turn S) {job : Cycle.Job} {plan : Plan} (planned : job.plan = .ok plan)
    (sound : plan.IsSound) (matchedAt : Instant) (cycleId : String) {state : S}
    (ready : engine.IsReady (part.get state)) :
    Exists fun done => Exists fun after => Exists fun course => Exists fun between =>
      Exists fun appended =>
      (Cycle.execute (turn.desk (engine.deskIn part store)) matchedAt cycleId job).perform state =
        (.ok done, after) ∧ done.ticketId = job.ticket.id ∧
      Went store job.ticket.id plan.mutations course state between ∧
      engine.Handles job.ticket.id plan matchedAt (some cycleId) (part.get state) (part.get after)
        done course appended := by
  rcases Executor.perform_apply (hampers.isQuiet lawful) job.ticket.id plan matchedAt
    (some cycleId) state with ⟨course, between, executions, applied, performed, went, quiet,
      accounts⟩
  have carries := (hampers.carries sound ready went).after_unseen quiet
  have trails : forall execution,
      (turn.desk (engine.deskIn part store)).trail.record execution =
        part.perform (Engine.trail.record execution) := fun _ => rfl
  rcases perform_recordAll lawful trails (accounts.isClean sound) carries.ready.calm with
    ⟨failures, after, appended, recorded, notes⟩
  have carried : ((turn.desk (engine.deskIn part store)).carryOut job.ticket.id plan matchedAt
      (some cycleId)).perform state = (.ok executions, applied) := performed
  have attempted : (Cycle.attemptPlan (turn.desk (engine.deskIn part store)) job matchedAt
      cycleId).perform state = (.ok (.ok executions), applied) := by
    rw [Cycle.attemptPlan, planned, Act.perform_attempt_bind, carried]
    rfl
  rcases same_of_offTrail notes.aside with ⟨clock, stock, rules⟩
  refine ⟨⟨job.ticket.id, executions, failures⟩, after, course, between, appended, ?_, rfl, went,
    ⟨?_, clock.trans carries.clock, rules.trans carries.rules, carries.read, ?_, accounts, ?_,
      notes.some, notes.all⟩⟩
  · rw [Cycle.perform_execute_ok attempted, Act.perform_map, recorded]
    rfl
  · exact ⟨notes.calm, clock ▸ carries.ready.utc, stock ▸ carries.ready.sound⟩
  · intro id
    rw [held_of_stock stock]
    exact carries.held id
  · rw [<- carries.trail]
    exact notes.grew

end Engine
end Triage
