import Triage.Proofs.Unit

namespace Triage

/-!
# The turns of an engine

A turn of an engine, on a world that is ready for it, always comes to an end with a report.  Either
the rules or the tickets could not be read and nothing that matters has changed, or the turn passes
from its first world to its last by doing jobs one after another.

What matters of a world between jobs is the clock, the tickets, the trail, and the rules apart from
the times at which they were executed.  Everything that a turn does besides its jobs leaves a world
that is alike in this.
-/

open Triage.Cycle (Job Done Turn Worked)
open Executor (Course Went Accounts pending)
open Rules (activeAmong)
open Rules.Catalog (Noted)

namespace Engine

variable {S : Type} {engine : Engine} {part : Part S World} {store : Tickets.Store S}
  {before between after : World}

/-- From calm to calm, with nothing that matters changed. -/
def Alike (before after : World) : Prop :=
  before.IsCalm -> after.IsCalm ∧ after.clock = before.clock ∧ after.stock = before.stock ∧
    after.trailRows = before.trailRows ∧ Noted before.ruleRows after.ruleRows

namespace Alike

theorem refl (world : World) : Alike world world := fun calm => ⟨calm, rfl, rfl, rfl, Noted.refl _⟩

theorem trans (one : Alike before between) (two : Alike between after) : Alike before after := by
  intro calm
  rcases one calm with ⟨still, clock, stock, trail, rules⟩
  rcases two still with ⟨again, clock_, stock_, trail_, rules_⟩
  exact ⟨again, clock_.trans clock, stock_.trans stock, trail_.trans trail, rules.trans rules_⟩

/-- What leaves everything that stands leaves what matters. -/
theorem of_standing (leaves : World.Leaves World.standing before after) : Alike before after := by
  intro calm
  rcases leaves calm with ⟨still, same⟩
  rcases same_of_standing same with ⟨clock, stock, rules, trail⟩
  refine ⟨still, clock, stock, trail, ?_⟩
  rw [rules]
  exact Noted.refl _

theorem of_contents (leaves : World.Leaves World.contents before after) : Alike before after :=
  of_standing fun calm => ⟨(leaves calm).1, World.standing_of_contents (leaves calm).2⟩

end Alike

theorem IsReady.alike (ready : engine.IsReady before) (alike : Alike before after) :
    engine.IsReady after := by
  rcases alike ready.calm with ⟨calm, clock, stock, _⟩
  exact ⟨calm, clock ▸ ready.utc, stock ▸ ready.sound⟩

/-! ## Jobs in a row -/

/-- A job that was done, with its plan, its course and what the trail grew by. -/
structure Piece where
  job : Job
  done : Done
  plan : Plan
  course : Course
  appended : List Execution

/-- From one world to the next, a piece of work was done. -/
structure Did (engine : Engine) (part : Part S World) (store : Tickets.Store S)
    (matchedAt : Instant) (cycleId : String) (piece : Piece) (before after : World) : Prop where
  planned : piece.job.plan = .ok piece.plan
  named : piece.done.ticketId = piece.job.ticket.id
  sound : piece.plan.IsSound
  handles : engine.Handles piece.job.ticket.id piece.plan matchedAt (some cycleId) before after
    piece.done piece.course piece.appended
  isOn : engine.Serves part store piece.job.ticket.id -> forall ticket,
    engine.held before piece.job.ticket.id = .ok (some ticket) ->
      piece.course.IsOn ticket piece.plan.mutations

/-- From one world to the last, pieces of work were done in a row, and nothing else happened. -/
inductive Chain (engine : Engine) (part : Part S World) (store : Tickets.Store S)
    (matchedAt : Instant) (cycleId : String) : List Piece -> World -> World -> Prop
  | nil {before after : World} : Alike before after ->
      Chain engine part store matchedAt cycleId [] before after
  | cons {piece : Piece} {pieces : List Piece} {before first second after : World} :
      Alike before first -> engine.Did part store matchedAt cycleId piece first second ->
      Chain engine part store matchedAt cycleId pieces second after ->
      Chain engine part store matchedAt cycleId (piece :: pieces) before after

namespace Chain

variable {matchedAt : Instant} {cycleId : String} {pieces : List Piece}

theorem after_alike {first : World} (alike : Alike before first)
    (chain : engine.Chain part store matchedAt cycleId pieces first after) :
    engine.Chain part store matchedAt cycleId pieces before after := by
  cases chain with
  | nil later => exact .nil (alike.trans later)
  | cons later did rest => exact .cons (alike.trans later) did rest

theorem then_alike {last : World}
    (chain : engine.Chain part store matchedAt cycleId pieces before last)
    (alike : Alike last after) :
    engine.Chain part store matchedAt cycleId pieces before after := by
  induction chain with
  | nil earlier => exact .nil (earlier.trans alike)
  | cons earlier did _ inductionHypothesis => exact .cons earlier did (inductionHypothesis alike)

/-- Each piece of a chain was done. -/
theorem did (chain : engine.Chain part store matchedAt cycleId pieces before after)
    {piece : Piece} (member : piece ∈ pieces) : Exists fun first => Exists fun second =>
      engine.Did part store matchedAt cycleId piece first second := by
  induction chain with
  | nil => cases member
  | cons _ done _ inductionHypothesis =>
      rcases List.mem_cons.mp member with rfl | behind
      · exact ⟨_, _, done⟩
      · exact inductionHypothesis behind

/-- Along a chain the world stays ready, with the same clock and the same rules. -/
theorem spec (chain : engine.Chain part store matchedAt cycleId pieces before after)
    (ready : engine.IsReady before) :
    engine.IsReady after ∧ after.clock = before.clock ∧
      Noted before.ruleRows after.ruleRows ∧
      Trail.Grew before.trailRows after.trailRows (pieces.flatMap Piece.appended) := by
  induction chain with
  | nil alike =>
      rcases alike ready.calm with ⟨_, clock, _, trail, rules⟩
      refine ⟨ready.alike alike, clock, rules, ?_⟩
      rw [trail]
      exact Trail.Grew.refl _
  | cons alike did _ inductionHypothesis =>
      rcases alike ready.calm with ⟨_, clock, _, trail, rules⟩
      rcases inductionHypothesis did.handles.ready with ⟨still, later, noted, grew⟩
      refine ⟨still, (later.trans did.handles.clock).trans clock, ?_, ?_⟩
      · rw [did.handles.rules] at noted
        exact rules.trans noted
      · have first := did.handles.grew
        rw [trail] at first
        exact first.trans grew

end Chain

/-- Whatever was worked on makes a chain. -/
theorem Hampers.chain (hampers : engine.Hampers part store) (lawful : part.IsLawful)
    (turn : Turn S) {matchedAt : Instant} {cycleId : String} {jobs : List Job} {state last : S}
    {worked : List (Job × Done)}
    (works : Worked (turn.desk (engine.deskIn part store)) matchedAt cycleId jobs state worked
      last)
    (planned : forall job, job ∈ jobs -> Exists fun plan => job.plan = .ok plan ∧ plan.IsSound)
    (ready : engine.IsReady (part.get state)) :
    Exists fun pieces => pieces.map (fun piece => (piece.job, piece.done)) = worked ∧
      engine.Chain part store matchedAt cycleId pieces (part.get state) (part.get last) := by
  induction works with
  | nil => exact ⟨[], rfl, .nil (Alike.refl _)⟩
  | left _ inductionHypothesis =>
      exact inductionHypothesis (fun job member => planned job (List.mem_cons_of_mem _ member)) ready
  | @did job _ _ _ _ done _ executed _ inductionHypothesis =>
      rcases planned job List.mem_cons_self with ⟨plan, known, sound⟩
      rcases hampers.handles lawful turn known sound matchedAt cycleId ready with
        ⟨other, after, course, between, appended, performed, named, went, handles⟩
      rw [executed] at performed
      cases performed
      rcases inductionHypothesis (fun job member => planned job (List.mem_cons_of_mem _ member))
        handles.ready with ⟨pieces, same, chain⟩
      refine ⟨⟨job, done, plan, course, appended⟩ :: pieces, by rw [List.map_cons, same],
        .cons (Alike.refl _) ⟨known, named, sound, handles, ?_⟩ chain⟩
      intro serves ticket held
      exact hampers.isOn serves sound ready held went

/-! ## Before and after the jobs -/

theorem decides (engine : Engine) (part : Part S World) (store : Tickets.Store S) :
    Cycle.Decides (engine.deskIn part store) engine.scale :=
  ⟨fun _ _ _ => rfl, fun _ _ => rfl⟩

/-- An engine notes executed rules, or fails as its database does. -/
theorem marks (engine : Engine) (part : Part S World) (store : Tickets.Store S) :
    Cycle.Marks (engine.deskIn part store) fun state => (part.get state).IsCalm := by
  intro ids executedAt state calm failure failed
  exact Rules.Catalog.isDatabase_of_markExecuted calm failed

theorem alike_markExecuted (engine : Engine) (lawful : part.IsLawful) (store : Tickets.Store S)
    (ids : List String) (executedAt : Instant) (state : S) :
    Alike (part.get state) (part.get
      (((engine.deskIn part store).rules.markExecuted ids executedAt).perform state).2) := by
  have seen : part.get
      (((engine.deskIn part store).rules.markExecuted ids executedAt).perform state).2 =
        ((engine.rules.markExecuted ids executedAt).perform (part.get state)).2 :=
    lawful.get_set _ _
  rw [seen]
  intro calm
  rcases Rules.Catalog.perform_markExecuted calm ids executedAt with ⟨rest, marked, noted, data⟩
  have after : ((engine.rules.markExecuted ids executedAt).perform (part.get state)).2.database =
      ((Rules.Catalog.markExecuted ids executedAt).perform (part.get state).database).2 := rfl
  refine ⟨rest, rfl, ?_, ?_, ?_⟩
  · rw [World.stock, after, data]
    rfl
  · rw [World.trailRows, after, data]
    rfl
  · rw [World.ruleRows, World.ruleRows, after, data]
    exact noted

/-- Drawing the id of a cycle leaves everything that stands. -/
theorem begun_standing (engine : Engine) (lawful : part.IsLawful) (store : Tickets.Store S)
    (turn : Turn S) :
    World.Leaves World.standing (part.get turn.state)
      (part.get (turn.begun (engine.deskIn part store))) := by
  have drawn : part.get (turn.begun (engine.deskIn part store)) =
      (World.drawCycleId (part.get turn.state)).2 := lawful.get_set _ _
  rw [drawn]
  exact fun calm => ⟨calm, rfl⟩

/-- Reading the active rules answers from the table of rules and changes nothing. -/
theorem perform_active {world : World} (calm : world.IsCalm) :
    ((engine.rules.active).perform world).1 = activeAmong world.ruleRows ∧
      World.Leaves World.contents world ((engine.rules.active).perform world).2 := by
  rcases Rules.active_does world.database calm with ⟨answered, rest, same⟩
  exact ⟨answered, fun _ => ⟨rest, congrArg
    (fun data => { world with database := .make 0 data }) same⟩⟩

/-- Listing tickets through a hampered store changes nothing, and lists tickets of the stock. -/
theorem Hampers.listed (hampers : engine.Hampers part store) {state : S}
    (ready : engine.IsReady (part.get state)) :
    Alike (part.get state) (part.get ((store.listOpen none).perform state).2) ∧
      forall tickets, ((store.listOpen none).perform state).1 = .ok tickets ->
        (tickets.map Ticket.id).Nodup ∧ forall ticket, ticket ∈ tickets ↔
          engine.held (part.get state) ticket.id = .ok (some ticket) ∧
            engine.isOpen (part.get state) ticket.id = true := by
  rcases perform_listOpen ready with ⟨contents, spec⟩
  rcases hampers.listOpen state with ⟨answered, reached⟩ | ⟨⟨failure, failed⟩, same⟩
  · rw [answered, reached]
    exact ⟨.of_contents contents, spec⟩
  · rw [same, failed]
    exact ⟨Alike.refl _, fun _ listed => nomatch listed⟩

/-- What a turn reads is what the world has, and reading leaves what matters. -/
theorem Hampers.readings (hampers : engine.Hampers part store) (lawful : part.IsLawful)
    (turn : Turn S) (ready : engine.IsReady (part.get turn.state)) :
    Alike (part.get turn.state) (part.get (turn.readings (engine.deskIn part store)).2) ∧
      forall rules tickets,
        (turn.readings (engine.deskIn part store)).1 = .ok (rules, tickets) ->
          activeAmong (part.get turn.state).ruleRows = .ok rules ∧
          (tickets.map Ticket.id).Nodup ∧ forall ticket, ticket ∈ tickets ↔
            engine.held (part.get turn.state) ticket.id = .ok (some ticket) ∧
              engine.isOpen (part.get turn.state) ticket.id = true := by
  have drawn := begun_standing engine lawful store turn
  have begun := ready.of_standing drawn
  rcases same_of_standing (drawn ready.calm).2 with ⟨_, stock, rows, _⟩
  have opened : turn.readings (engine.deskIn part store) =
      (Cycle.read (engine.deskIn part store)).perform
        (turn.begun (engine.deskIn part store)) := rfl
  rw [opened, <- rows]
  generalize turn.begun (engine.deskIn part store) = state at *
  rcases @perform_active engine _ begun.calm with ⟨answered, contents⟩
  have active : ((engine.deskIn part store).rules.active).perform state =
      (activeAmong (part.get state).ruleRows,
        part.set ((engine.rules.active).perform (part.get state)).2 state) := by
    rw [<- answered]
    rfl
  have seen : part.get (part.set ((engine.rules.active).perform (part.get state)).2 state) =
      ((engine.rules.active).perform (part.get state)).2 := lawful.get_set _ _
  generalize part.set ((engine.rules.active).perform (part.get state)).2 state = later at *
  rw [<- seen] at contents
  have alike := (Alike.of_standing drawn).trans (.of_contents contents)
  cases known : activeAmong (part.get state).ruleRows with
  | error failure =>
      rw [known] at active
      rw [Cycle.read, Act.perform_bind_error active]
      exact ⟨alike, fun _ _ read => nomatch read⟩
  | ok active_ =>
      rw [known] at active
      rw [Cycle.read, Act.perform_bind_ok active]
      rcases hampers.listed (ready.alike alike) with ⟨after, spec⟩
      cases listed : (store.listOpen none).perform later with
      | mk result last =>
          rw [listed] at after spec
          have listed_ : ((engine.deskIn part store).tickets.listOpen none).perform later =
              (result, last) := listed
          cases result with
          | error failure =>
              rw [Act.perform_bind_error listed_]
              exact ⟨alike.trans after, fun _ _ read => nomatch read⟩
          | ok open_ =>
              rw [Act.perform_bind_ok listed_]
              refine ⟨alike.trans after, ?_⟩
              intro rules tickets read
              cases read
              rcases spec open_ rfl with ⟨nodup, held⟩
              refine ⟨rfl, nodup, ?_⟩
              intro ticket
              have same := (alike ready.calm).2.2.1
              rw [<- held_of_stock same, <- isOpen_of_stock same]
              exact held ticket

/-! ## Whole turns -/

/-- A turn that reads its rules and tickets, and does these pieces of work. -/
structure Passes (engine : Engine) (part : Part S World) (store : Tickets.Store S)
    (turn : Turn S) (rules : List Rule) (tickets : List Ticket) (pieces : List Piece)
    (report : Report) : Prop where
  answered : (turn.outcome (engine.deskIn part store)).1 = .ok report
  aborted_eq : report.aborted = false
  active : activeAmong (part.get turn.state).ruleRows = .ok rules
  nodup : (tickets.map Ticket.id).Nodup
  listed : forall ticket, ticket ∈ tickets ↔
    engine.held (part.get turn.state) ticket.id = .ok (some ticket) ∧
      engine.isOpen (part.get turn.state) ticket.id = true
  jobs : (pieces.map Piece.job).Sublist (Cycle.jobsOf engine.scale rules
    (part.get turn.state).clock.instant (Cycle.underCap turn.pace.cap tickets))
  done_eq : turn.done (engine.deskIn part store) = pieces.map Piece.done
  deferred_eq : report.ticketsDeferred = Cycle.overCap turn.pace.cap tickets +
    ((Cycle.jobsOf engine.scale rules (part.get turn.state).clock.instant
      (Cycle.underCap turn.pace.cap tickets)).length - pieces.length)
  prompt : turn.IsPrompt (engine.deskIn part store) ->
    report.ticketsDeferred = Cycle.overCap turn.pace.cap tickets
  auditFailures_eq : report.auditFailures =
    ((pieces.map fun piece => piece.done.auditFailures).sum : Nat)
  chain : engine.Chain part store (part.get turn.state).clock.instant
    (turn.cycleId (engine.deskIn part store)) pieces (part.get turn.state)
      (part.get (turn.after (engine.deskIn part store)))

/-- A turn that cannot read its rules or its tickets does nothing and leaves what matters. -/
theorem Hampers.aborts (hampers : engine.Hampers part store) (lawful : part.IsLawful)
    (turn : Turn S) (ready : engine.IsReady (part.get turn.state)) {failure : Failure}
    (unread : (turn.readings (engine.deskIn part store)).1 = .error failure) :
    Alike (part.get turn.state) (part.get (turn.after (engine.deskIn part store))) ∧
      turn.done (engine.deskIn part store) = [] ∧
      Exists fun report => (turn.outcome (engine.deskIn part store)).1 = .ok report ∧
        report.aborted = true := by
  have readings : turn.readings (engine.deskIn part store) =
      (.error failure, (turn.readings (engine.deskIn part store)).2) := Prod.ext unread rfl
  rcases turn.outcome_of_error _ readings with ⟨after, idle, report, answered, aborted⟩
  rw [after]
  exact ⟨(hampers.readings lawful turn ready).1, idle, report, answered, aborted⟩

/-- Every other turn goes through all its stages, and does sound plans. -/
theorem Hampers.goes (hampers : engine.Hampers part store) (lawful : part.IsLawful)
    (turn : Turn S) (ready : engine.IsReady (part.get turn.state)) {rules : List Rule}
    {tickets : List Ticket} {fetched : S}
    (readings : turn.readings (engine.deskIn part store) = (.ok (rules, tickets), fetched)) :
    turn.startedAt (engine.deskIn part store) = (part.get turn.state).clock ∧
    (forall job, job ∈ Cycle.jobsOf engine.scale rules (part.get turn.state).clock.instant
      (Cycle.underCap turn.pace.cap tickets) ->
        Exists fun plan => job.plan = .ok plan ∧ plan.IsSound) ∧
    Exists fun worked => Exists fun between => Exists fun report =>
      turn.Goes (engine.deskIn part store) engine.scale rules tickets fetched worked between
        report := by
  rcases hampers.readings lawful turn ready with ⟨alike, spec⟩
  rw [readings] at alike spec
  rcases spec rules tickets rfl with ⟨active, _, _⟩
  have clean : forall rule, rule ∈ rules -> forall action, action ∈ rule.actions ->
      action.IsClean := fun rule member => Rules.isClean_of_activeAmong active member
  have startedAt : turn.startedAt (engine.deskIn part store) = (part.get turn.state).clock := by
    have same := begun_standing engine lawful store turn ready.calm
    exact (same_of_standing same.2).1
  have planned : forall job, job ∈ Cycle.jobsOf engine.scale rules
      (part.get turn.state).clock.instant (Cycle.underCap turn.pace.cap tickets) ->
      Exists fun plan => job.plan = .ok plan ∧ plan.IsSound := by
    intro job member
    exact ⟨_, (Cycle.mem_jobsOf.mp member).2.2.2, Plan.onTicket_isSound clean⟩
  have canDo : Cycle.CanDo (turn.desk (engine.deskIn part store))
      (turn.startedAt (engine.deskIn part store)).instant
      (turn.cycleId (engine.deskIn part store)) (fun state => engine.IsReady (part.get state))
      (Cycle.jobsOf engine.scale rules (turn.startedAt (engine.deskIn part store)).instant
        (Cycle.underCap turn.pace.cap tickets)) := by
    intro job member state ready
    rw [startedAt] at member
    rcases planned job member with ⟨plan, known, sound⟩
    rcases hampers.handles lawful turn known sound _ _ ready with
      ⟨done, after, _, _, _, performed, _, _, handles⟩
    exact ⟨done, after, performed, handles.ready⟩
  rcases turn.goes _ (decides engine part store)
    (fun ids executedAt state ready => marks engine part store ids executedAt state ready.calm)
      canDo readings (ready.alike alike) with ⟨worked, between, report, goes, _⟩
  exact ⟨startedAt, planned, worked, between, report, goes⟩

/-- What a turn goes through are pieces of work. -/
theorem Hampers.passes (hampers : engine.Hampers part store) (lawful : part.IsLawful)
    (turn : Turn S) (ready : engine.IsReady (part.get turn.state)) {rules : List Rule}
    {tickets : List Ticket}
    (read : (turn.readings (engine.deskIn part store)).1 = .ok (rules, tickets)) :
    Exists fun pieces => Exists fun report =>
      engine.Passes part store turn rules tickets pieces report := by
  have readings : turn.readings (engine.deskIn part store) =
      (.ok (rules, tickets), (turn.readings (engine.deskIn part store)).2) := Prod.ext read rfl
  rcases hampers.readings lawful turn ready with ⟨alike, spec⟩
  rcases spec rules tickets read with ⟨active, nodup, listed⟩
  rcases hampers.goes lawful turn ready readings with
    ⟨startedAt, planned, worked, between, report, goes⟩
  generalize (turn.readings (engine.deskIn part store)).2 = fetched at alike goes
  rw [<- startedAt] at planned
  rcases hampers.chain lawful turn goes.works planned (ready.alike alike) with
    ⟨pieces, same, chain⟩
  have jobs : pieces.map Piece.job = worked.map Prod.fst := by
    rw [<- same, List.map_map]
    rfl
  have done : pieces.map Piece.done = worked.map Prod.snd := by
    rw [<- same, List.map_map]
    rfl
  have failures : (pieces.map fun piece => piece.done.auditFailures) =
      worked.map fun pair => pair.2.auditFailures := by
    rw [<- same, List.map_map]
    rfl
  have many : pieces.length = worked.length := by rw [<- same, List.length_map]
  have last : Alike (part.get between) (part.get (turn.after (engine.deskIn part store))) := by
    rcases goes.marked with unmarked_ | ⟨ids, marked⟩
    · rw [unmarked_]
      exact Alike.refl _
    · rw [marked]
      exact alike_markExecuted engine lawful store ids _ between
  have sublist := goes.works.sublist
  have deferred := goes.deferred_eq
  rw [<- jobs, startedAt] at sublist
  rw [<- many, startedAt] at deferred
  rw [startedAt] at chain
  exact ⟨pieces, report, goes.answered, goes.aborted_eq, active, nodup, listed, sublist,
    goes.done_eq.trans done.symm, deferred, goes.prompt,
    by rw [failures]; exact goes.auditFailures_eq,
    (chain.after_alike alike).then_alike last⟩

/-- A turn that nobody stops and that has the time leaves no job over. -/
theorem Hampers.undeferred (hampers : engine.Hampers part store) (lawful : part.IsLawful)
    (turn : Turn S) (ready : engine.IsReady (part.get turn.state)) {rules : List Rule}
    {tickets : List Ticket}
    (read : (turn.readings (engine.deskIn part store)).1 = .ok (rules, tickets))
    (prompt : turn.IsPrompt (engine.deskIn part store)) {report : Report}
    (answered : (turn.outcome (engine.deskIn part store)).1 = .ok report) :
    report.ticketsDeferred = Cycle.overCap turn.pace.cap tickets := by
  rcases hampers.passes lawful turn ready read with ⟨_, other, passes⟩
  have same : other = report := Except.ok.inj (passes.answered.symm.trans answered)
  exact same ▸ passes.prompt prompt

end Engine
end Triage
