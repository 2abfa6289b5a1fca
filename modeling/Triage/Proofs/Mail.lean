import Triage.Proofs.KeepsActions

namespace Triage

/-!
# What goes out

Messages that go out stay in the world in the order in which they were sent.  Of all that a turn
does only notifications send any, so what a turn adds can be read off the plans that it carries
out: for each job in its turn the messages of its notifications, whether or not its changes were
made.
-/

open Triage.Cycle (Done Job Turn Worked)

namespace Executor

variable {S : Type} {executor : Executor S} {mail : S -> List (String × String)}

/-- The message of a notification about a ticket with whom it is for, if any goes out. -/
def outgoing? (executor : Executor S) (ticketId : String) (ticket : Option Ticket)
    (planned : Planned) : Option (String × String) :=
  match executor.dispatch with
  | some _ => (message executor.template planned.rule ticketId ticket).map
      (Prod.mk planned.action.target)
  | none => none

theorem outgoing?_of_message {ticketId : String} {ticket : Option Ticket} {planned : Planned}
    (connected : executor.dispatch.isSome = true) {text : String}
    (written : message executor.template planned.rule ticketId ticket = some text) :
    executor.outgoing? ticketId ticket planned = some (planned.action.target, text) := by
  rcases Option.isSome_iff_exists.mp connected with ⟨dispatch, known⟩
  rw [outgoing?, known, written]
  rfl

/-- The messages of notifications about a ticket. -/
def messages (executor : Executor S) (ticketId : String) (ticket : Option Ticket)
    (notifications : List Planned) : List (String × String) :=
  notifications.filterMap (executor.outgoing? ticketId ticket)

theorem messages_cons (ticketId : String) (ticket : Option Ticket) (planned : Planned)
    (rest : List Planned) : executor.messages ticketId ticket (planned :: rest) =
      (executor.outgoing? ticketId ticket planned).toList ++
        executor.messages ticketId ticket rest := by
  cases sent : executor.outgoing? ticketId ticket planned with
  | none => exact List.filterMap_cons_none sent
  | some letter => exact List.filterMap_cons_some sent

/-- Messages pile up as they are sent, and nothing else touches them. -/
structure Fills (executor : Executor S) (mail : S -> List (String × String)) : Prop where
  find : forall id, (executor.store.find id).Keeps mail
  change : forall id updates expected, (executor.store.change id updates expected).Keeps mail
  dispatch : forall dispatch, executor.dispatch = some dispatch -> forall target text state,
    mail ((dispatch target text).perform state).2 = mail state ++ [(target, text)]
  draw : (Act.draw executor.freshId).Keeps mail

namespace Fills

variable (fills : executor.Fills mail)

include fills

theorem reread (ticketId : String) : (reread executor.store ticketId).Keeps mail := by
  refine Act.Keeps.bind (Act.Keeps.attempt (fills.find ticketId)) fun found => ?_
  rcases found with failure | none_ | ticket <;> exact Act.Keeps.pure _

theorem write (live : Ticket) (planned : List Planned) :
    (write executor.store live planned).Keeps mail := by
  refine Act.Keeps.bind (Act.Keeps.attempt (fills.change _ _ _)) fun written => ?_
  cases written <;> exact Act.Keeps.pure _

theorem mutate (live : Ticket) (mutations : List Planned) :
    (mutate executor.store live mutations).Keeps mail := by
  rw [Executor.mutate]
  split
  · exact Act.Keeps.pure _
  · refine Act.Keeps.bind (fills.write live _) fun answer => ?_
    cases answer <;> exact Act.Keeps.pure _

theorem applyMutations (ticketId : String) (mutations : List Planned) :
    (applyMutations executor.store ticketId mutations).Keeps mail := by
  rw [Executor.applyMutations]
  split
  · exact Act.Keeps.pure _
  · refine Act.Keeps.bind (fills.reread ticketId) fun read => ?_
    cases read with
    | error fault => exact Act.Keeps.pure _
    | ok live =>
        refine Act.Keeps.bind (fills.mutate live mutations) fun answer => ?_
        cases answer <;> exact Act.Keeps.pure _

theorem described (ticketId : String) (live : Option Ticket) (entries : List Entry) :
    (described executor.store ticketId live entries).Keeps mail := by
  cases live with
  | some ticket => exact Act.Keeps.pure _
  | none =>
      refine Act.Keeps.bind (Act.Keeps.attempt (fills.find ticketId)) fun found => ?_
      cases found <;> exact Act.Keeps.pure _

/-- A notification sends its message, if there is any way to and its template allows it. -/
theorem notify (ticketId : String) (ticket : Option Ticket) (planned : Planned) (state : S) :
    mail ((executor.notify ticketId ticket planned).perform state).2 =
      mail state ++ (executor.outgoing? ticketId ticket planned).toList := by
  rw [Executor.notify, outgoing?]
  cases known : executor.dispatch with
  | none => exact (List.append_nil _).symm
  | some dispatch =>
      cases message executor.template planned.rule ticketId ticket with
      | none => exact (List.append_nil _).symm
      | some text => exact fills.dispatch dispatch known planned.action.target text state

theorem notifyAll (ticketId : String) (ticket : Option Ticket) (notifications : List Planned)
    (state : S) : mail ((executor.notifyAll ticketId ticket notifications).perform state).2 =
      mail state ++ executor.messages ticketId ticket notifications := by
  induction notifications generalizing state with
  | nil => exact (List.append_nil _).symm
  | cons planned rest inductionHypothesis =>
      rcases perform_notify executor.isQuiet_trivial ticketId ticket planned state with ⟨between, sent, _⟩
      have first := fills.notify ticketId ticket planned state
      rw [sent] at first
      rw [Executor.notifyAll, Act.perform_bind_ok sent, inductionHypothesis, first, messages_cons,
        List.append_assoc]

/-- The notifications of a plan send their messages about the ticket as it is described. -/
theorem applyNotifications {ticketId : String} {live : Option Ticket} {entries : List Entry}
    {state between : S} {ticket : Option Ticket}
    (shown : (Executor.described executor.store ticketId live entries).perform state =
      (.ok ticket, between)) (notifications : List Planned) :
    mail ((executor.applyNotifications ticketId live entries notifications).perform state).2 =
      mail state ++ executor.messages ticketId ticket notifications := by
  cases empty : notifications.isEmpty with
  | true =>
      have nothing := List.isEmpty_iff.mp empty
      subst nothing
      exact (List.append_nil _).symm
  | false =>
      rcases perform_notifyAll executor.isQuiet_trivial ticketId ticket notifications between with
        ⟨after, sent, _⟩
      have kept := fills.described ticketId live entries state
      have first := fills.notifyAll ticketId ticket notifications between
      rw [shown] at kept
      rw [sent] at first
      rw [Executor.applyNotifications, empty, if_neg Bool.false_ne_true, Act.perform_bind_ok shown,
        Act.perform_bind_ok sent]
      exact first.trans (congrArg (· ++ executor.messages ticketId ticket notifications) kept)

/-- Carrying out a plan sends the messages of its notifications, about the ticket as it is described
once its changes took their course. -/
theorem apply_of_described {ticketId : String} {plan : Plan} {state between later : S}
    {live : Option Ticket} {changes : List Entry} {ticket : Option Ticket}
    (changed : (Executor.applyMutations executor.store ticketId plan.mutations).perform state =
      (.ok (live, changes), between))
    (shown : (Executor.described executor.store ticketId live
      (changes ++ plan.superseded.map entryOfSuperseded)).perform between = (.ok ticket, later))
    (matchedAt : Instant) (cycleId : Option String) :
    mail ((executor.apply ticketId plan matchedAt cycleId).perform state).2 =
      mail state ++ executor.messages ticketId ticket plan.notifications := by
  have kept := fills.applyMutations ticketId plan.mutations state
  rw [changed] at kept
  rcases perform_applyNotifications executor.isQuiet_trivial ticketId live
    (changes ++ plan.superseded.map entryOfSuperseded) plan.notifications between with
    ⟨sent, notified, _⟩
  have first := fills.applyNotifications shown plan.notifications
  rw [notified] at first
  let numbered (group : Group) : Act S Execution := do
    let recordId <- Act.draw executor.freshId
    pure (group.execution recordId ticketId matchedAt cycleId)
  have last : (executor.apply ticketId plan matchedAt cycleId).perform state =
      ((groups (changes ++ plan.superseded.map entryOfSuperseded ++
        plan.notifications.map (entryOf .applied none))).mapM numbered).perform sent := by
    rw [Executor.apply, Act.perform_bind_ok changed]
    exact Act.perform_bind_ok notified
  have drawn (gathered : List Group) : (gathered.mapM numbered).Keeps mail :=
    Act.Keeps.mapM (fun group => Act.Keeps.bind fills.draw fun _ => Act.Keeps.pure _) _
  rw [last]
  exact (drawn _ sent).trans
    (first.trans (congrArg (· ++ executor.messages ticketId ticket plan.notifications) kept))

/-- Carrying out a plan sends the messages of its notifications. -/
theorem apply (ticketId : String) (plan : Plan) (matchedAt : Instant) (cycleId : Option String)
    (state : S) : Exists fun ticket =>
      mail ((executor.apply ticketId plan matchedAt cycleId).perform state).2 =
        mail state ++ executor.messages ticketId ticket plan.notifications := by
  rcases perform_applyMutations executor.store ticketId state plan.mutations with
    ⟨course, between, changed, _⟩
  rcases perform_described executor.isQuiet_trivial ticketId course.live
    (course.changes plan.mutations ++ plan.superseded.map entryOfSuperseded) between with
    ⟨ticket, later, shown, _⟩
  exact ⟨ticket, fills.apply_of_described changed shown matchedAt cycleId⟩

end Fills
end Executor

namespace Cycle

variable {S : Type} {desk : Desk S} {mail : S -> List (String × String)}

/-- Noting executions sends nothing where noting one sends nothing. -/
theorem recordAll_keeps (records : forall execution, (desk.trail.record execution).Keeps mail)
    (executions : List Execution) : (recordAll desk executions).Keeps mail :=
  @recordAll_along S desk (fun before after => mail after = mail before) (fun _ => rfl)
    (fun first second => second.trans first) records executions

end Cycle

namespace Engine

variable {S A : Type} {engine : Engine} {part : Part S World} {store : Tickets.Store S}

/-- The messages that are to go out, in some state. -/
def outboxIn (part : Part S World) (state : S) : List (String × String) := (part.get state).outbox

theorem keeps_outbox (lawful : part.IsLawful) {act : Act World A}
    (keeps : act.Keeps World.outbox) : (part.perform act).Keeps (outboxIn part) := by
  intro state
  rw [outboxIn, Part.perform_perform, lawful.get_set]
  exact keeps _

/-- What is done on another part of the world, or not at all, sends nothing. -/
theorem keeps_outbox_of_attempts {own : Act World A} {instead : Except Failure A -> Prop}
    {act : Act S A} (attempts : part.Attempts own instead act) (keeps : own.Keeps World.outbox) :
    act.Keeps (outboxIn part) := by
  intro state
  rcases attempts state with ⟨_, reached⟩ | ⟨_, same⟩
  · rw [outboxIn, reached]
    exact keeps _
  · rw [outboxIn, same]
    rfl

/-- Neither home of tickets has to do with messages. -/
theorem tickets_keep_outbox (engine : Engine) :
    (forall limit, (engine.tickets.listOpen limit).Keeps World.outbox) ∧
    (forall id, (engine.tickets.find id).Keeps World.outbox) ∧
    forall id updates expected, (engine.tickets.change id updates expected).Keeps World.outbox := by
  rw [tickets]
  cases engine.home <;> exact ⟨fun _ _ => rfl, fun _ _ => rfl, fun _ _ _ _ => rfl⟩

/-- The messages of an engine pile up in its world. -/
theorem Hampers.fills (hampers : engine.Hampers part store) (lawful : part.IsLawful) :
    (engine.executor part store).Fills (outboxIn part) := by
  rcases engine.tickets_keep_outbox with ⟨_, find, change⟩
  refine ⟨fun id => keeps_outbox_of_attempts (hampers.find id) (find id), fun id updates expected =>
    keeps_outbox_of_attempts (hampers.change id updates expected) (change id updates expected),
    ?_, ?_⟩
  · intro dispatch known target text state
    unfold executor at known
    split at known
    next =>
        cases known
        rw [outboxIn, Part.perform_perform, lawful.get_set]
        rfl
    next => cases known
  · intro state
    have drawn : part.get ((Act.draw (engine.executor part store).freshId).perform state).2 =
        (World.drawRecordId (part.get state)).2 := lawful.get_set _ _
    rw [outboxIn, drawn]
    rfl

/-- Reading rules and tickets sends nothing. -/
theorem Hampers.outbox_readings (hampers : engine.Hampers part store) (lawful : part.IsLawful)
    (turn : Turn S) : outboxIn part (turn.readings (engine.deskIn part store)).2 =
      outboxIn part turn.state := by
  have drawn : part.get (turn.begun (engine.deskIn part store)) =
      (World.drawCycleId (part.get turn.state)).2 := lawful.get_set _ _
  have begun : outboxIn part (turn.begun (engine.deskIn part store)) =
      outboxIn part turn.state := by
    rw [outboxIn, drawn]
    rfl
  have reads : (Cycle.read (engine.deskIn part store)).Keeps (outboxIn part) := by
    refine Act.Keeps.bind (keeps_outbox lawful fun _ => rfl) fun rules => ?_
    exact Act.Keeps.bind (keeps_outbox_of_attempts hampers.listOpen
      (engine.tickets_keep_outbox.1 none)) fun tickets => Act.Keeps.pure _
  exact (reads _).trans begun

/-- A job that is done sends the messages of the notifications of its plan. -/
theorem Hampers.sends_execute (hampers : engine.Hampers part store) (lawful : part.IsLawful)
    (turn : Turn S) {job : Job} {plan : Plan} (planned : job.plan = .ok plan)
    {matchedAt : Instant} {cycleId : String} {state after : S} {done : Done}
    (executed : (Cycle.execute (turn.desk (engine.deskIn part store)) matchedAt cycleId
      job).perform state = (.ok done, after)) :
    done.ticketId = job.ticket.id ∧ Exists fun ticket => outboxIn part after =
      outboxIn part state ++
        (engine.executor part store).messages job.ticket.id ticket plan.notifications := by
  rcases (hampers.fills lawful).apply job.ticket.id plan matchedAt (some cycleId) state with
    ⟨ticket, sent⟩
  rcases Executor.perform_apply_groups (engine.executor part store).isQuiet_trivial job.ticket.id
    plan matchedAt (some cycleId) state with ⟨_, _, executions, applied, performed, _⟩
  have carried : ((turn.desk (engine.deskIn part store)).carryOut job.ticket.id plan matchedAt
      (some cycleId)).perform state = (.ok executions, applied) := performed
  have attempted : (Cycle.attemptPlan (turn.desk (engine.deskIn part store)) job matchedAt
      cycleId).perform state = (.ok (.ok executions), applied) := by
    rw [Cycle.attemptPlan, planned, Act.perform_attempt_bind, carried]
    rfl
  have records : (Cycle.recordAll (turn.desk (engine.deskIn part store)) executions).Keeps
      (outboxIn part) := Cycle.recordAll_keeps (fun _ => keeps_outbox lawful fun _ => rfl) _
  rw [performed] at sent
  rw [Cycle.perform_execute_ok attempted, Act.perform_map] at executed
  have kept := records applied
  cases noted : (Cycle.recordAll (turn.desk (engine.deskIn part store)) executions).perform
    applied with
  | mk result last =>
      rw [noted] at executed kept
      cases result with
      | error failure => cases executed
      | ok failures =>
          cases executed
          exact ⟨rfl, ticket, kept.trans sent⟩

/-- The messages of some jobs that were done, job by job. -/
theorem Hampers.sends_worked (hampers : engine.Hampers part store) (lawful : part.IsLawful)
    (turn : Turn S) {matchedAt : Instant} {cycleId : String} {jobs : List Job} {state after : S}
    {worked : List (Job × Done)}
    (works : Worked (turn.desk (engine.deskIn part store)) matchedAt cycleId jobs state worked
      after)
    (planned : forall job, job ∈ jobs -> Exists fun plan => job.plan = .ok plan) :
    Exists fun letters : List (List (String × String)) =>
      outboxIn part after = outboxIn part state ++ letters.flatten ∧
      List.Forall₂ (fun pair sent => pair.2.ticketId = pair.1.ticket.id ∧
        Exists fun plan => pair.1.plan = .ok plan ∧ Exists fun ticket =>
          sent = (engine.executor part store).messages pair.1.ticket.id ticket
            plan.notifications) worked letters := by
  induction works with
  | nil => exact ⟨[], (List.append_nil _).symm, .nil⟩
  | left _ inductionHypothesis =>
      exact inductionHypothesis fun job member => planned job (List.mem_cons_of_mem _ member)
  | @did job _ _ _ _ _ _ executed _ inductionHypothesis =>
      rcases planned job List.mem_cons_self with ⟨plan, known⟩
      rcases hampers.sends_execute lawful turn known executed with ⟨named, ticket, sent⟩
      rcases inductionHypothesis (fun job member => planned job (List.mem_cons_of_mem _ member))
        with ⟨letters, later, each⟩
      refine ⟨_ :: letters, ?_, .cons ⟨named, plan, known, ticket, rfl⟩ each⟩
      rw [later, sent, List.flatten_cons, List.append_assoc]

/--
What goes out in a turn: for each job that is done the messages of the notifications that the rules
of the turn plan on its ticket as the turn finds it.
-/
def Sends (engine : Engine) (part : Part S World) (store : Tickets.Store S) (turn : Turn S)
    (rules : List Rule) : Prop :=
  Exists fun letters : List (List (String × String)) =>
    outboxIn part (turn.after (engine.deskIn part store)) =
      outboxIn part turn.state ++ letters.flatten ∧
    List.Forall₂ (fun done sent => Exists fun ticket => Exists fun described =>
      engine.held (part.get turn.state) done.ticketId = .ok (some ticket) ∧
      sent = (engine.executor part store).messages done.ticketId described
        (Plan.onTicket engine.scale rules ticket
          (part.get turn.state).clock.instant).notifications)
      (turn.done (engine.deskIn part store)) letters

/-- A turn that reads its rules sends what they plan. -/
theorem Hampers.sends (hampers : engine.Hampers part store) (lawful : part.IsLawful)
    (turn : Turn S) (ready : engine.IsReady (part.get turn.state)) {rules : List Rule}
    {tickets : List Ticket}
    (read : (turn.readings (engine.deskIn part store)).1 = .ok (rules, tickets)) :
    engine.Sends part store turn rules := by
  have readings : turn.readings (engine.deskIn part store) =
      (.ok (rules, tickets), (turn.readings (engine.deskIn part store)).2) := Prod.ext read rfl
  rcases (hampers.readings lawful turn ready).2 rules tickets read with ⟨_, _, listed⟩
  rcases hampers.goes lawful turn ready readings with
    ⟨startedAt, planned, worked, between, report, goes⟩
  have fetched := hampers.outbox_readings lawful turn
  rw [<- startedAt] at planned
  rcases hampers.sends_worked lawful turn goes.works (fun job member =>
    (planned job member).imp fun _ known => known.1) with ⟨letters, sent, each⟩
  have last : outboxIn part (turn.after (engine.deskIn part store)) = outboxIn part between := by
    rcases goes.marked with unmarked_ | ⟨ids, marked⟩
    · rw [unmarked_]
    · rw [marked]
      exact keeps_outbox lawful (fun _ => rfl) between
  refine ⟨letters, last.trans (fetched ▸ sent), ?_⟩
  rw [goes.done_eq, List.forall₂_map_left_iff]
  have ofJobs : forall pair, pair ∈ worked -> pair.1 ∈ Cycle.jobsOf engine.scale rules
      (turn.startedAt (engine.deskIn part store)).instant
        (Cycle.underCap turn.pace.cap tickets) :=
    fun pair member => goes.works.sublist.subset (List.mem_map_of_mem member)
  refine ((List.forall₂_and_left _ _).mpr ⟨ofJobs, each⟩).imp ?_
  rintro pair messages ⟨inside, named, plan, known, described, rfl⟩
  rcases Cycle.mem_jobsOf.mp inside with ⟨taken, _, _, onTicket⟩
  have same : plan = Plan.onTicket engine.scale rules pair.1.ticket
      (part.get turn.state).clock.instant := by
    rw [<- startedAt]
    exact Except.ok.inj (known.symm.trans onTicket)
  refine ⟨pair.1.ticket, described, ?_, ?_⟩
  · rw [named]
    exact ((listed _).mp ((Cycle.underCap_sublist _ _).subset taken)).1
  · rw [named, same]

/-- Among what goes out in a turn are the messages of every job that is done. -/
theorem Sends.of_done {turn : Turn S} {rules : List Rule}
    (sends : engine.Sends part store turn rules) {done : Done}
    (member : done ∈ turn.done (engine.deskIn part store)) :
    Exists fun letters : List (String × String) =>
      outboxIn part (turn.after (engine.deskIn part store)) = outboxIn part turn.state ++ letters ∧
      Exists fun ticket => Exists fun described =>
        engine.held (part.get turn.state) done.ticketId = .ok (some ticket) ∧
        (engine.executor part store).messages done.ticketId described
          (Plan.onTicket engine.scale rules ticket
            (part.get turn.state).clock.instant).notifications ⊆ letters := by
  rcases sends with ⟨letters, outbox, each⟩
  rcases List.getElem_of_mem member with ⟨position, inside, rfl⟩
  have within : position < letters.length := each.length_eq ▸ inside
  rcases each.get inside within with ⟨ticket, described, held, sent⟩
  refine ⟨letters.flatten, outbox, ticket, described, held, fun letter among => ?_⟩
  refine List.mem_flatten_of_mem (List.getElem_mem within) ?_
  rw [List.get_eq_getElem] at sent
  exact sent ▸ among

end Engine
end Triage
