import Triage.Proofs.JobSteps
import Triage.Proofs.KeepsActions
import Triage.Proofs.TicketRuns

namespace Triage

/-!
# What a job does among others

From what is noted about a job back to what it did: a change that is called applied is one that the
store took, in one step, and the plan that it belongs to was made from rules and tickets that were
read before.  Others may have done anything in between.
-/

open Script (Move Quiet Runs)

/-! ## Where an applied change comes from -/

namespace Executor

section Applied

variable {S T : Type} {part : Part T S} {others : T -> T -> Prop} {steps : Tickets.Stepwise S}
  {executor : Executor S} {ticketId : String} {matchedAt : Instant} {cycleId : Option String}
  {state after : T} {moves : List (Move T)}

/-- Of planned changes only those that the store took are applied. -/
theorem written_of_applied {mutations : List Planned}
    {answer : Except Fault (Ticket × Option (Except Fault Bool))} {entry : Entry}
    (member : entry ∈ (entriesOf mutations answer).2) (applied : entry.outcome = .applied) :
    Exists fun live => Exists fun planned => answer = .ok (live, some (.ok true)) ∧
      planned ∈ pending live mutations ∧ planned.rule = entry.rule ∧
      planned.action = entry.action := by
  have made {outcome : Outcome} {error : Option String} {some_ : List Planned}
      (inside : entry ∈ some_.map (entryOf outcome error)) : outcome = .applied ∧
        Exists fun planned => planned ∈ some_ ∧ planned.rule = entry.rule ∧
          planned.action = entry.action := by
    rcases List.mem_map.mp inside with ⟨planned, known, rfl⟩
    exact ⟨applied, planned, known, rfl, rfl⟩
  rcases answer with fault | ⟨live, _ | fault | written⟩
  · cases (made member).1
  · cases (made member).1
  · cases (made member).1
  · rcases List.mem_append.mp member with settled | missing
    · cases (made settled).1
    · cases written with
      | false => cases (made missing).1
      | true =>
          rcases (made missing).2 with ⟨planned, known, rule, action⟩
          exact ⟨live, planned, rfl, known, rule, action⟩

theorem sent_of_runs {live : Option Ticket} {entries sent : List Entry}
    {notifications : List Planned}
    (runs : Runs part others (notificationSteps steps executor ticketId live entries notifications)
      state moves (.ok sent) after) : sent = notifications.map (entryOf .applied none) := by
  rw [notificationSteps] at runs
  split at runs
  next empty =>
      rw [List.isEmpty_iff.mp empty]
      exact Except.ok.inj (Runs.of_done runs).1
  next =>
      rcases Runs.of_bind runs with ⟨_, _, _, _, _, _, rest⟩
      rcases Runs.of_bind rest with ⟨_, _, _, _, _, _, told⟩
      exact Except.ok.inj (Runs.of_done told).1

theorem drawn_of_runs {gathered : List Group} {executions : List Execution}
    (runs : Runs part others (drawingSteps executor ticketId matchedAt cycleId gathered) state
      moves (.ok executions) after) :
    List.Forall₂ (fun group execution => Exists fun recordId =>
      execution = Group.execution group recordId ticketId matchedAt cycleId)
        gathered executions := by
  induction gathered generalizing state after moves executions with
  | nil =>
      cases (Runs.of_done runs).1
      exact .nil
  | cons group rest inductionHypothesis =>
      rcases Runs.of_bind runs with ⟨_, _, recordId, _, _, _, later⟩
      rcases Runs.of_bind later with ⟨_, _, drawn, _, _, draws, told⟩
      cases (Runs.of_done told).1
      exact .cons ⟨recordId, rfl⟩ (inductionHypothesis draws)

/-- A change that an execution calls applied is one that the store took. -/
theorem written_of_runs {plan : Plan} (sound : plan.IsSound) {executions : List Execution}
    (runs : Runs part others (applySteps steps executor ticketId plan matchedAt cycleId) state
      moves (.ok executions) after)
    {execution : Execution} (member : execution ∈ executions)
    (applied : execution.outcome = .applied) {action : Action}
    (inside : action ∈ execution.actions) {aspect : Aspect}
    (changes : action.aspect? = some aspect) :
    execution.ticketId = ticketId ∧ Exists fun first => Exists fun later => Exists fun between =>
      Exists fun live => Exists fun planned => moves = first ++ later ∧
        Runs part others (changeSteps steps ticketId plan.mutations) state first
          (.ok (.ok (live, some (.ok true)))) between ∧
        planned ∈ pending live plan.mutations ∧ planned.rule.id = execution.ruleId ∧
        planned.action = action := by
  rcases Runs.of_bind runs with ⟨changing, rest, ⟨live, entries⟩, changed, rfl, mutates, tells⟩
  rcases Runs.of_bind tells with ⟨_, _, sent, _, _, notifies, draws⟩
  have accounts := accounts_of_groups (drawn_of_runs draws)
  rw [accounts.actions execution member] at inside
  rcases mem_actionsUnder.mp inside with ⟨entry, known, heading, rfl⟩
  have outcome : entry.outcome = .applied :=
    (congrArg Heading.outcome heading).trans applied
  -- What lost its aspect is skipped, and what is sent is about no aspect.
  have change : entry ∈ entries := by
    rcases List.mem_append.mp known with decided | notified
    · rcases List.mem_append.mp decided with change | lost
      · exact change
      · rcases List.mem_map.mp lost with ⟨superseded, _, rfl⟩
        cases outcome
    · rw [sent_of_runs notifies] at notified
      rcases List.mem_map.mp notified with ⟨planned, listed, rfl⟩
      have silent := (sound.notifications planned listed).2
      cases silent.symm.trans changes
  refine ⟨(accounts.about execution member).1, ?_⟩
  rw [mutationSteps] at mutates
  split at mutates
  next =>
      cases (Runs.of_done mutates).1
      cases change
  next =>
      rcases Runs.of_bind mutates with ⟨first, idle, answer, made, rfl, writes, told⟩
      rcases Runs.of_done told with ⟨same, _⟩
      have said : entries = (entriesOf plan.mutations answer).2 :=
        congrArg Prod.snd (Except.ok.inj same)
      rcases written_of_applied (said ▸ change) outcome with
        ⟨read, planned, rfl, missing, rule, action⟩
      exact ⟨first, idle ++ rest, made, read, planned, List.append_assoc _ _ _, writes, missing,
        (congrArg Rule.id rule).trans (congrArg Heading.ruleId heading), action⟩

end Applied
end Executor

namespace Engine

variable {engine : Engine} {scene after : Scene} {moves : List (Move Scene)}

/-- The engine keeps a ticket. -/
def Stores (engine : Engine) (world : World) (ticket : Ticket) : Prop :=
  match engine.home with
  | .memory => ticket ∈ world.shelf
  | .database => engine.held world ticket.id = .ok (some ticket)

/-- Rows that were loaded are those that a query saw at some time. -/
theorem load_runs {R A : Type} {text : String}
    {select : Database.Tables -> Except Database.Fault (List R)} {read : R -> Except Failure A}
    {wording : Failure -> Failure} {found : List A} (shared : scene.IsShared)
    (runs : Runs Scene.databasePart Scene.Others
      (Database.Pool.loadSteps (.reading text select) read wording) scene moves (.ok found) after) :
    after.IsShared ∧ Quiet Scene.contents moves ∧
      Exists fun earlier => Exists fun look => Exists fun later => Exists fun rows =>
        moves = earlier ++ look :: later ∧ look.own = true ∧ Scene.IsKeyed look.before.data ∧
        select look.before.data = .ok rows ∧ rows.mapM read = .ok found := by
  rcases Runs.of_andThen runs with ⟨loading, idle, answer, loaded, rfl, loads, told⟩
  rcases Runs.of_done told with ⟨worded, waited⟩
  have same : answer = .ok found := Result.mapError_eq_ok_iff.mp worded.symm
  subst same
  rcases Runs.of_bind loads with ⟨asking, nothing, rows, asked, rfl, asks, reads⟩
  rcases Runs.of_done reads with ⟨made, waitedMore⟩
  rcases shared.query asks with ⟨shared_, quiet, earlier, look, later, rfl, own, keyed, seen⟩
  refine ⟨(shared_.waits waitedMore).waits waited,
    (quiet.append (Quiet.of_waits waitedMore)).append (Quiet.of_waits waited), earlier, look,
    later ++ (nothing ++ idle), rows, ?_, own, keyed, seen, made.symm⟩
  simp only [List.append_assoc, List.cons_append]

/-- Listing tickets answers some that are kept at some time, and changes nothing. -/
theorem list_runs {tickets : List Ticket} (shared : scene.IsShared)
    (runs : Runs Scene.worldPart Scene.Others engine.listSteps scene moves (.ok tickets) after) :
    after.IsShared ∧ Quiet Scene.contents moves ∧
      Exists fun earlier => Exists fun look => Exists fun later =>
        moves = earlier ++ look :: later ∧ look.own = true ∧
        forall ticket, ticket ∈ tickets -> engine.Stores look.before.world ticket := by
  rw [listSteps] at runs
  cases home : engine.home with
  | memory =>
      rw [home] at runs
      rcases Runs.of_one runs with ⟨before, between, later, rfl, answered, waited, waits⟩
      have lists : engine.tickets.listOpen none = Act.look World.clock >>= fun _ =>
          World.shelfPart.perform (Act.look
            (Tickets.Shelf.listOpen engine.vocabulary.closedStatuses none)) := by
        rw [Engine.tickets, home]
        rfl
      rw [lists] at answered waits ⊢
      refine ⟨(shared_elsewhere (shared.waits waited) rfl).waits waits,
        (Quiet.of_waits waited).append (.cons (fun _ => rfl) (Quiet.of_waits waits)), before, _,
        later, rfl, rfl, fun ticket member => ?_⟩
      rw [Stores, home]
      have listed : between.world.shelf.listOpen engine.vocabulary.closedStatuses none =
          tickets := Except.ok.inj answered
      rw [<- listed] at member
      exact (List.mem_filter.mp ((List.mergeSort_perm _ _).mem_iff.mp member)).1
  | database =>
      rw [home] at runs
      rcases load_runs shared (Runs.of_on worldPart_databasePart runs) with
        ⟨shared_, quiet, earlier, look, later, rows, rfl, own, keyed, seen, made⟩
      refine ⟨shared_, quiet, earlier, look, later, rfl, own, fun ticket member => ?_⟩
      rw [Stores, home]
      cases stored : look.before.data.tickets with
      | none =>
          rw [Database.Tables.ticketRows, stored] at seen
          cases seen
      | some stock =>
          rw [Database.Tables.ticketRows, stored] at seen
          cases seen
          have listed : Tickets.listed engine.vocabulary.closedStatuses (some stock) =
              .ok tickets := by
            simp only [Tickets.listed]
            rw [made]
            rfl
          have found := (((Tickets.listed_spec (keyed stock stored) listed).2 ticket).mp member).1
          rw [Engine.held, home, TicketHome.lookUp, World.stock]
          exact stored ▸ found

/-- What a cycle reads is sound and kept at some time, and reading it changes nothing. -/
theorem read_runs {rules : List Rule} {tickets : List Ticket} (shared : scene.IsShared)
    (runs : Runs Scene.worldPart Scene.Others engine.readSteps scene moves (.ok (rules, tickets))
      after) :
    after.IsShared ∧ Quiet Scene.contents moves ∧
      (forall rule, rule ∈ rules -> forall action, action ∈ rule.actions -> action.IsClean) ∧
      Exists fun earlier => Exists fun look => Exists fun later =>
        moves = earlier ++ look :: later ∧ look.own = true ∧
        forall ticket, ticket ∈ tickets -> engine.Stores look.before.world ticket := by
  rcases Runs.of_bind runs with ⟨first, rest, _, between, rfl, loads, lists⟩
  rcases Runs.of_bind lists with ⟨listing, idle, _, listed, rfl, lists, told⟩
  rcases Runs.of_done told with ⟨same, waited⟩
  cases same
  rcases load_runs shared (Runs.of_on worldPart_databasePart loads) with
    ⟨shared_, quiet, sooner, asked, sequel, rows, rfl, _, _, _, made⟩
  rcases list_runs shared_ lists with ⟨last, quiet_, earlier, look, later, rfl, own, kept⟩
  refine ⟨last.waits waited, quiet.append (quiet_.append (Quiet.of_waits waited)), ?_,
    sooner ++ asked :: sequel ++ earlier, look, later ++ idle, ?_, own, kept⟩
  · intro rule member
    have pointwise := Result.forall₂_of_mapM_eq_ok made
    rcases List.mem_iff_getElem.mp member with ⟨position, bound, rfl⟩
    exact Rules.isClean_of_ofRow (pointwise.get (pointwise.length_eq ▸ bound) bound)
  · simp only [List.append_assoc, List.cons_append]

/-- An execution that is called applied comes from carrying out the plan of its job. -/
theorem apply_runs {steps : Tickets.Stepwise World} {executor : Executor World}
    {desk : Desk World} {matchedAt : Instant} {cycleId : String} {job : Cycle.Job}
    {done : Cycle.Done} {execution : Execution}
    (runs : Runs Scene.worldPart Scene.Others
      (Cycle.executeSteps desk steps executor matchedAt cycleId job) scene moves (.ok done) after)
    (member : execution ∈ done.executions) (applied : execution.outcome = .applied) :
    Exists fun plan => Exists fun executions => Exists fun first => Exists fun later =>
      Exists fun between => job.plan = .ok plan ∧ execution ∈ executions ∧
        moves = first ++ later ∧
        Runs Scene.worldPart Scene.Others
          (executor.applySteps steps job.ticket.id plan matchedAt (some cycleId)) scene first
            (.ok executions) between := by
  rcases Runs.of_bind runs with ⟨attempting, rest, answer, attempted, rfl, attempts, later⟩
  rcases Runs.of_bind later with ⟨telling, noting, executions, told, rfl, tells, notes⟩
  rcases Runs.of_bind notes with ⟨_, _, failures, _, _, _, ends⟩
  cases (Runs.of_done ends).1
  cases answer with
  | error reason =>
      rcases Runs.of_one tells with ⟨_, ready, _, _, answered, _, _⟩
      rcases @Cycle.perform_failedExecutions World desk job.ticket.id reason matchedAt cycleId
        job.firing ready.world with ⟨failed, _, performed, each⟩
      have same : executions = failed :=
        Except.ok.inj (answered.symm.trans (congrArg Prod.fst performed))
      subst same
      rcases List.mem_iff_getElem.mp member with ⟨position, bound, rfl⟩
      rcases each.get (each.length_eq ▸ bound) bound with ⟨recordId, made⟩
      simp only [List.get_eq_getElem, List.getElem_map] at made
      rw [made] at applied
      cases applied
  | ok known =>
      cases (Runs.of_done tells).1
      rw [Cycle.attemptSteps] at attempts
      split at attempts
      next => cases (Runs.of_done attempts).1
      next plan planned =>
          rcases Runs.of_andThen attempts with
            ⟨applying, idle, result, ended, rfl, applies, worded⟩
          have same : result = .ok executions :=
            Result.mapError_eq_ok_iff.mp (Except.ok.inj (Runs.of_done worded).1).symm
          exact ⟨plan, executions, applying, _, ended, planned, member, List.append_assoc _ _ _,
            same ▸ applies⟩

/-- Changes that the store takes are written by one step. -/
theorem writes_of_runs {id : String} {plan : Plan} (sound : plan.IsSound) {live : Ticket}
    (shared : scene.IsShared)
    (runs : Runs Scene.worldPart Scene.Others
      (Executor.changeSteps engine.ticketSteps id plan.mutations) scene moves
        (.ok (.ok (live, some (.ok true)))) after) :
    engine.WritesOnce id (Plan.updates (Executor.pending live plan.mutations))
      live.updatedAt.instant moves := by
  rcases reread_of_runs runs with ⟨reading, rest, reread, rfl, finds, some_, changes⟩
  rcases find_runs shared finds with ⟨shared_, quiet, _, read, _, _, _, held⟩
  rw [id_of_held held] at changes
  rcases (change_runs (Executor.updates_ne_nil sound some_) (Executor.isClean_updates sound)
    shared_ changes).2 rfl with
    ⟨earlier, write, later, now, rfl, own, before, behind, changedAt, ⟨looked, member, clock⟩,
      writes⟩
  refine ⟨reading ++ earlier, write, later, now, (List.append_assoc _ _ _).symm, own,
    quiet.append before, behind, changedAt, ⟨looked, ?_, clock⟩, writes⟩
  rw [List.append_assoc]
  exact List.mem_append_right reading member

end Engine
end Triage
