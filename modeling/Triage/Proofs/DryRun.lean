import Triage.Proofs.EitherStore
import Triage.Proofs.Explaining
import Triage.Proofs.KeepsActions
import Triage.Proofs.OldestFirst
import Triage.Proofs.Protected
import Triage.Proofs.Settling

namespace Triage

/-!
# A dry run foretells the next turn

A dry run of a rule reads the rule and the tickets under the cap, and answers the ids of those on
which the rule would fire.  A turn from the same world reads all rules and all open tickets, cuts
them to the cap itself, sorts out all rules on each ticket, chooses between their actions and carries
them out.  Still, the tickets of the dry run are those about which the turn records an execution of
the rule, and those under whose ids the rule is matched.

The dry run goes through the store of the engine.  The store of the turn may fail to look tickets up
and to change them: the rule has its executions on the trail then as well, and they tell of that.
Of the turn it is assumed that it reads its rules and tickets, that it leaves none of these tickets
over, and that no execution is lost on the way to the trail.
-/

open Triage.Cycle (Turn Job Done Worked jobsOf underCap overCap)
open Rules (IsHolding AreStored Gives)
open Tickets (Shelf IsLimit firsts openRows asWritten ticketOf AreWrittenInOrder)

/-! ## Listing under a cap -/

namespace TicketHome

/-- The tickets that a stock lists under a limit. -/
def listing (home : TicketHome) (closed : List String) (limit : Option Int)
    (stock : Shelf × Option (List Database.TicketRow)) : Except Failure (List Ticket) :=
  match home with
  | .memory => .ok (stock.1.listOpen closed limit)
  | .database => ((Tickets.listing closed limit).perform ⟨stock.2, none, none, none⟩).1

/-- The tickets of a stock are listed in the order of their creation: those in memory always are,
and those in the database where the open rows are in the order of the instants that they name. -/
def IsInOrder (home : TicketHome) (closed : List String)
    (stock : Shelf × Option (List Database.TicketRow)) : Prop :=
  match home with
  | .memory => True
  | .database => forall rows, stock.2 = some rows -> AreWrittenInOrder (openRows closed rows)

variable {home : TicketHome} {closed : List String}
  {stock : Shelf × Option (List Database.TicketRow)} {tickets : List Ticket}

/-- Cutting the whole listing comes to the same as listing under the cap. -/
theorem listing_underCap (listed : home.listing closed none stock = .ok tickets) {cap : Int}
    (asked : home = .database -> IsLimit (some cap)) :
    home.listing closed (some cap) stock = .ok (underCap cap tickets) := by
  rw [Cycle.underCap_eq]
  cases home with
  | memory =>
      cases listed
      rfl
  | database => exact Tickets.listing_firsts listed (asked rfl)

theorem pairwise_listing (ordered : home.IsInOrder closed stock)
    (listed : home.listing closed none stock = .ok tickets) :
    tickets.Pairwise fun a b => (Shelf.order a b).isLE = true := by
  cases home with
  | memory =>
      cases listed
      exact pairwise_mergeSort_isLE _
  | database =>
      rcases Tickets.exists_of_listing listed with ⟨rows, stored, read⟩
      rcases Tickets.readable_of_forall₂ read with ⟨made, readable⟩
      have same := (ordered rows stored).map_asWritten fun row member =>
        readable row (List.mem_mergeSort.mpr member)
      rw [made, same]
      exact pairwise_mergeSort_isLE _

end TicketHome

namespace Engine

variable {S : Type} {engine : Engine} {part : Part S World} {store : Tickets.Store S}
  {world : World}

/-- Tickets are listed in the order of their creation where the open rows name it as the store writes
it, as instants in UTC. -/
theorem isInOrder_of_text (ready : engine.IsReady world) {closed : List String}
    (plain : forall rows, world.stock.2 = some rows -> forall row ticket,
      row ∈ openRows closed rows -> Tickets.Reads row ticket ->
        row.createdAt = .text ticket.createdAt.text) :
    engine.home.IsInOrder closed world.stock := by
  have sound := ready.sound
  cases home : engine.home with
  | memory => trivial
  | database =>
      rw [home] at sound
      intro rows stored
      exact Tickets.areWrittenInOrder_of_text (sound rows stored)
        (fun row member => (List.mem_filter.mp member).1) (plain rows stored)

/-- Listing under any limit answers from the stock and changes nothing. -/
theorem perform_listOpen_eq (calm : world.IsCalm) (limit : Option Int) :
    ((engine.tickets.listOpen limit).perform world).1 =
        engine.home.listing engine.vocabulary.closedStatuses limit world.stock ∧
      World.Leaves World.contents world ((engine.tickets.listOpen limit).perform world).2 := by
  cases home : engine.home with
  | memory =>
      rw [tickets, home]
      exact ⟨rfl, World.Leaves.refl _ world⟩
  | database =>
      rcases Tickets.listing_does engine.vocabulary.closedStatuses limit world.database calm with
        ⟨answered, rest, same⟩
      rw [tickets, home]
      exact ⟨answered, fun _ => ⟨rest, congrArg
        (fun data => { world with database := .make 0 data }) same⟩⟩

/-- The tickets that a turn reads are those that the stock lists. -/
theorem Hampers.listing_of_readings (hampers : engine.Hampers part store) (lawful : part.IsLawful)
    {turn : Turn S} (calm : (part.get turn.state).IsCalm) {rules : List Rule}
    {tickets : List Ticket}
    (read : (turn.readings (engine.deskIn part store)).1 = .ok (rules, tickets)) :
    engine.home.listing engine.vocabulary.closedStatuses none (part.get turn.state).stock =
      .ok tickets := by
  rcases begun_standing engine lawful store turn calm with ⟨begun, same⟩
  rcases Act.exists_of_bind_ok (Prod.ext read rfl) with ⟨active, between, first, rest⟩
  rcases Act.exists_of_bind_ok rest with ⟨_, last, listed, answered⟩
  cases (Prod.mk.inj answered).1
  have reached : part.get between =
      ((engine.rules.active).perform (part.get (turn.begun (engine.deskIn part store)))).2 := by
    have ended := congrArg (fun answer => part.get answer.2) first
    exact ended.symm.trans (lawful.get_set _ _)
  rcases (@perform_active engine _ begun).2 begun with ⟨still, contents⟩
  rw [<- reached] at still contents
  have stock : (part.get between).stock = (part.get turn.state).stock := by
    have kept := congrArg World.stock contents
    exact kept.trans (same_of_standing same).2.1
  rcases hampers.listOpen between with ⟨answered, _⟩ | ⟨⟨failure, failed⟩, _⟩
  · rw [<- stock, <- (perform_listOpen_eq still none).1, <- answered]
    exact congrArg Prod.fst listed
  · have none_ := failed.symm.trans (congrArg Prod.fst listed)
    cases none_

/-! ## The dry run -/

/-- Sorting out the tickets on which a rule fires changes nothing. -/
theorem perform_firingOn (rule : Rule) (now : Instant) (tickets : List Ticket) (world : World) :
    (engine.desk.firingOn rule now tickets).perform world =
      (.ok ((tickets.filter fun ticket => rule.fires engine.scale ticket now).map Ticket.id),
        world) := by
  induction tickets with
  | nil => rfl
  | cons ticket rest inductionHypothesis =>
      have answered : (engine.desk.fires rule ticket now).perform world =
          (.ok (rule.fires engine.scale ticket now), world) := rfl
      rw [Desk.firingOn, Act.perform_bind_ok answered, Act.perform_bind_ok inductionHypothesis,
        List.filter_cons]
      cases rule.fires engine.scale ticket now <;> rfl

theorem require_spares (id : String) : World.Spares World.contents (engine.rules.require id) :=
  World.Spares.database (fun world tables => { world with database := .make 0 tables })
    (fun _ _ => rfl) fun _ => Rules.Catalog.require_leaves id

/-- Whatever comes of a dry run, it changes nothing. -/
theorem testRule_spares (cap : Int) (id : String) :
    World.Spares World.contents (engine.desk.testRule cap id) := by
  refine .bind (require_spares id) fun rule => .bind (.look _) fun now => .bind ?_ fun tickets => ?_
  · exact fun world calm => (perform_listOpen_eq calm (some cap)).2 calm
  · intro world
    rw [perform_firingOn]
    exact World.Leaves.refl _ _

/-- A dry run of an active rule answers the listed tickets on which it fires. -/
theorem perform_testRule {rules : List Rule} (held : IsHolding world.database rules)
    (stored : AreStored rules) {rule : Rule} (known : rule ∈ rules)
    (active : rule.isActive = true) {cap : Int} {tickets : List Ticket}
    (listed : engine.home.listing engine.vocabulary.closedStatuses (some cap) world.stock =
      .ok tickets) :
    ((engine.desk.testRule cap rule.id).perform world).1 =
      .ok ((tickets.filter fun ticket =>
        rule.fires engine.scale ticket world.clock.instant).map Ticket.id) := by
  have found : ((engine.rules.require rule.id).perform world).1 = .ok rule :=
    (Gives.require_known stored (Rules.lookUp_of_mem stored.once known) _ held).1
  rcases @require_spares engine rule.id world held.rest with ⟨calm, same⟩
  generalize ran : (engine.rules.require rule.id).perform world = ended at found calm same
  have first : (engine.desk.rules.require rule.id).perform world = (.ok rule, ended.2) := by
    rw [<- found, <- ran]
    rfl
  have clock := congrArg World.clock same
  have stock := congrArg World.stock same
  change ended.2.clock = world.clock at clock
  change ended.2.stock = world.stock at stock
  have answered : ((engine.tickets.listOpen (some cap)).perform ended.2).1 = .ok tickets := by
    rw [(perform_listOpen_eq calm (some cap)).1, stock, listed]
  have second : (engine.desk.tickets.listOpen (some cap)).perform ended.2 =
      (.ok tickets, ((engine.tickets.listOpen (some cap)).perform ended.2).2) :=
    Prod.ext answered rfl
  have alike : { rule with isActive := true } = rule := by rw [<- active]
  have now : engine.desk.clock ended.2 = world.clock := clock
  rw [Desk.testRule, Act.perform_bind_ok first, Act.perform_look_bind, Act.perform_bind_ok second,
    alike, now, perform_firingOn]

end Engine

/-! ## Matching all tickets -/

namespace Matching

variable {scale : PriorityScale} {rules : List Rule} {now : Instant} {tickets : List Ticket}

/-- Rules are put under ids one ticket after another; ids that are new go to the end. -/
theorem foldl_putUnder (once : (tickets.map Ticket.id).Nodup) (entries : List (String × List Rule))
    (fresh : forall ticket, ticket ∈ tickets -> forall entry, entry ∈ entries ->
      entry.1 ≠ ticket.id) :
    tickets.foldl
        (fun entries ticket =>
          let firing := firingOn scale rules ticket now
          if firing.isEmpty then entries else putUnder entries ticket.id firing)
        entries =
      entries ++ (tickets.filter fun ticket => !(firingOn scale rules ticket now).isEmpty).map
        fun ticket => (ticket.id, firingOn scale rules ticket now) := by
  induction tickets generalizing entries with
  | nil => exact (List.append_nil entries).symm
  | cons ticket rest inductionHypothesis =>
      rw [List.map_cons, List.nodup_cons] at once
      have later : forall other, other ∈ rest -> forall entry, entry ∈ entries ->
          entry.1 ≠ other.id := fun other member => fresh other (List.mem_cons_of_mem _ member)
      rw [List.foldl_cons, List.filter_cons]
      cases none_ : (firingOn scale rules ticket now).isEmpty with
      | true =>
          simp only [none_, if_true]
          exact inductionHypothesis once.2 entries later
      | false =>
          have put : putUnder entries ticket.id (firingOn scale rules ticket now) =
              entries ++ [(ticket.id, firingOn scale rules ticket now)] := by
            refine if_neg fun known => ?_
            rcases List.any_eq_true.mp known with ⟨entry, member, same⟩
            exact fresh ticket List.mem_cons_self entry member (beq_iff_eq.mp same)
          simp only [none_, Bool.false_eq_true, if_false, put]
          refine (inductionHypothesis once.2 _ ?_).trans (by simp)
          intro other member entry inside
          rcases List.mem_append.mp inside with before | last
          · exact later other member entry before
          · rw [List.mem_singleton.mp last]
            exact fun same => once.1 (List.mem_map.mpr ⟨other, member, same.symm⟩)

/-- The entries of all tickets: each ticket on which rules fire has one, and they are its rules. -/
theorem mem_all (once : (tickets.map Ticket.id).Nodup) {id : String} {firing : List Rule} :
    (id, firing) ∈ all scale rules tickets now ↔ Exists fun ticket => ticket ∈ tickets ∧
      ticket.id = id ∧ (of scale rules ticket now).firing = firing ∧ firing ≠ [] := by
  have entries := @foldl_putUnder scale rules now tickets once []
    (fun _ _ _ inside => by cases inside)
  rw [List.nil_append] at entries
  rw [all, entries, List.mem_map]
  constructor
  · rintro ⟨ticket, member, made⟩
    cases made
    rcases List.mem_filter.mp member with ⟨inside, fires⟩
    refine ⟨ticket, inside, rfl, of_firing _ _ _ _, fun none_ => ?_⟩
    rw [none_] at fires
    cases fires
  · rintro ⟨ticket, member, rfl, rfl, fires⟩
    rw [of_firing] at fires ⊢
    refine ⟨ticket, List.mem_filter.mpr ⟨member, ?_⟩, rfl⟩
    rw [Bool.not_eq_true', List.isEmpty_eq_false_iff]
    exact fires

/-- Among the rules that fire on a ticket is each one that fires on it by itself. -/
theorem mem_firing_iff {rule : Rule} (known : rule ∈ rules) {ticket : Ticket} :
    rule ∈ (of scale rules ticket now).firing ↔ rule.fires scale ticket now = true := by
  rw [of_firing, firingOn, List.mem_filter, Rule.mem_ordered, and_iff_right known]

end Matching

/-! ## Executions of a rule -/

/-- Executions that tell of the rules that fire on a ticket tell of each rule that does. -/
theorem Executor.Tells.exists_iff {scale : PriorityScale} {rules : List Rule} {ticket : Ticket}
    {now : Instant} {cycleId : Option String} {executions : List Execution}
    (tells : Executor.Tells (Matching.of scale rules ticket now).firing ticket.id now cycleId
      executions)
    (distinct : (rules.map Rule.id).Nodup) {rule : Rule} (known : rule ∈ rules)
    (acts : rule.actions ≠ []) :
    (Exists fun execution => execution ∈ executions ∧ execution.ruleId = rule.id) ↔
      rule.fires scale ticket now = true := by
  rw [<- Matching.mem_firing_iff known]
  constructor
  · rintro ⟨execution, noted, same⟩
    rcases (tells.about execution noted).2.2.2 with ⟨other, fires, named, _⟩
    have inside : other ∈ rules := (List.mem_filter.mp (Matching.mem_firing.mp fires).1).1
    have equal : other = rule := List.inj_on_of_nodup_map distinct inside known (named.trans same)
    exact equal ▸ fires
  · intro fires
    rcases List.exists_mem_of_ne_nil _ acts with ⟨action, acted⟩
    have listed : (rule.id, action) ∈ (Matching.of scale rules ticket now).firing.flatMap
        fun rule => rule.actions.map (Prod.mk rule.id) :=
      List.mem_flatMap.mpr ⟨rule, fires, List.mem_map_of_mem acted⟩
    rcases List.mem_flatMap.mp (tells.actions.mem_iff.mpr listed) with ⟨execution, noted, inside⟩
    rcases List.mem_map.mp inside with ⟨_, _, same⟩
    exact ⟨execution, noted, congrArg Prod.fst same⟩

/-- What was done of jobs that rules made tells of these rules. -/
theorem Cycle.Worked.tells {S : Type} {desk : Desk S} {executor : Executor S}
    (carriesOut : Cycle.CarriesOut desk executor) {scale : PriorityScale} {rules : List Rule}
    (distinct : (rules.map Rule.id).Nodup) {startedAt : Instant} {cycleId : String}
    {jobs : List Job} {state after : S} {worked : List (Job × Done)}
    (works : Worked desk startedAt cycleId jobs state worked after)
    (made : forall job, job ∈ jobs -> job.IsMade scale rules job.ticket startedAt) :
    forall pair, pair ∈ worked -> pair.1 ∈ jobs ∧ pair.2.ticketId = pair.1.ticket.id ∧
      Executor.Tells (Matching.of scale rules pair.1.ticket startedAt).firing pair.1.ticket.id
        startedAt (some cycleId) pair.2.executions := by
  induction works with
  | nil =>
      intro pair member
      cases member
  | left _ inductionHypothesis =>
      intro pair member
      rcases inductionHypothesis (fun job inside => made job (List.mem_cons_of_mem _ inside)) pair
        member with ⟨inside, told⟩
      exact ⟨List.mem_cons_of_mem _ inside, told⟩
  | @did job jobs state between after done worked executed _ inductionHypothesis =>
      intro pair member
      rcases List.mem_cons.mp member with rfl | behind
      · rcases Cycle.handed_tells carriesOut distinct (made job List.mem_cons_self) cycleId state
          with ⟨executions, handedOn, given, tells⟩
        rw [Cycle.execute_eq, Act.perform_bind_ok given, map_eq_pure_bind] at executed
        rcases Act.exists_of_bind_ok executed with ⟨failures, _, _, answered⟩
        cases (Prod.mk.inj answered).1
        exact ⟨List.mem_cons_self, rfl, tells⟩
      · rcases inductionHypothesis (fun job inside => made job (List.mem_cons_of_mem _ inside)) pair
          behind with ⟨inside, told⟩
        exact ⟨List.mem_cons_of_mem _ inside, told⟩

namespace Engine

variable {S : Type} {engine : Engine} {part : Part S World} {store : Tickets.Store S}
  {turn : Turn S} {rules : List Rule} {tickets : List Ticket}

/-- What a turn has done tells of the rules that fire on tickets that it took. -/
theorem Hampers.tells (hampers : engine.Hampers part store) (lawful : part.IsLawful)
    (ready : engine.IsReady (part.get turn.state)) (distinct : (rules.map Rule.id).Nodup)
    (read : (turn.readings (engine.deskIn part store)).1 = .ok (rules, tickets)) :
    forall done, done ∈ turn.done (engine.deskIn part store) -> Exists fun ticket =>
      ticket ∈ underCap turn.pace.cap tickets ∧ done.ticketId = ticket.id ∧
      Executor.Tells
        (Matching.of engine.scale rules ticket (part.get turn.state).clock.instant).firing
        ticket.id (part.get turn.state).clock.instant
        (some (turn.cycleId (engine.deskIn part store))) done.executions := by
  rcases hampers.goes lawful turn ready (Prod.ext read rfl) with
    ⟨startedAt, _, worked, between, report, goes⟩
  have carriesOut : Cycle.CarriesOut (turn.desk (engine.deskIn part store))
      (engine.executor part store) := fun _ _ _ _ _ => Or.inl rfl
  have told := goes.works.tells carriesOut distinct fun job member =>
    Job.IsMade.of_mem_jobsOf member
  rw [startedAt] at told
  intro done member
  rw [goes.done_eq] at member
  rcases List.mem_map.mp member with ⟨pair, inside, rfl⟩
  rcases told pair inside with ⟨job, named, tells⟩
  exact ⟨pair.1.ticket, (Cycle.mem_jobsOf.mp job).1, named, tells⟩

/-- Where no execution is lost, the trail grows by those of everything that was done. -/
theorem Passes.mem_appended {pieces : List Piece} {report : Report}
    (passes : engine.Passes part store turn rules tickets pieces report)
    (complete : report.auditFailures = 0) {execution : Execution} :
    execution ∈ pieces.flatMap Piece.appended ↔ Exists fun done =>
      done ∈ turn.done (engine.deskIn part store) ∧ execution ∈ done.executions := by
  have all : forall piece, piece ∈ pieces -> piece.appended = piece.done.executions := by
    intro piece member
    rcases passes.chain.did member with ⟨_, _, did⟩
    exact did.handles.all (passes.unfailing complete piece member)
  rw [passes.done_eq, List.mem_flatMap]
  constructor
  · rintro ⟨piece, member, noted⟩
    exact ⟨piece.done, List.mem_map_of_mem member, all piece member ▸ noted⟩
  · rintro ⟨done, member, noted⟩
    rcases List.mem_map.mp member with ⟨piece, inside, rfl⟩
    exact ⟨piece, inside, (all piece inside).symm ▸ noted⟩

/-- A turn that leaves none of its tickets over and loses no execution records one of a rule on
exactly the tickets on which the rule fires. -/
theorem Passes.records_iff {pieces : List Piece} {report : Report}
    (passes : engine.Passes part store turn rules tickets pieces report)
    (hampers : engine.Hampers part store) (lawful : part.IsLawful)
    (ready : engine.IsReady (part.get turn.state)) (distinct : (rules.map Rule.id).Nodup)
    (read : (turn.readings (engine.deskIn part store)).1 = .ok (rules, tickets))
    (undeferred : report.ticketsDeferred = overCap turn.pace.cap tickets)
    (complete : report.auditFailures = 0) {rule : Rule} (known : rule ∈ rules)
    (acts : rule.actions ≠ []) {id : String} :
    (Exists fun execution => execution ∈ pieces.flatMap Piece.appended ∧
        execution.ruleId = rule.id ∧ execution.ticketId = id) ↔
      Exists fun ticket => ticket ∈ underCap turn.pace.cap tickets ∧ ticket.id = id ∧
        rule.fires engine.scale ticket (part.get turn.state).clock.instant = true := by
  have told := hampers.tells lawful ready distinct read
  constructor
  · rintro ⟨execution, appended, ofRule, rfl⟩
    rcases (passes.mem_appended complete).mp appended with ⟨done, member, noted⟩
    rcases told done member with ⟨ticket, taken, _, tells⟩
    exact ⟨ticket, taken, (tells.about execution noted).1.symm,
      (tells.exists_iff distinct known acts).mp ⟨execution, noted, ofRule⟩⟩
  · rintro ⟨ticket, taken, rfl, fires⟩
    have some_ : (Matching.of engine.scale rules ticket
        (part.get turn.state).clock.instant).firing ≠ [] :=
      List.ne_nil_of_mem ((Matching.mem_firing_iff known).mpr fires)
    rcases passes.exists_of_undeferred undeferred taken some_ with ⟨piece, member, rfl⟩
    rcases passes.chain.did member with ⟨_, _, did⟩
    have done : piece.done ∈ turn.done (engine.deskIn part store) := by
      rw [passes.done_eq]
      exact List.mem_map_of_mem member
    rcases told piece.done done with ⟨other, alsoTaken, named, tells⟩
    -- The ids of tickets are distinct, so what was done under this id was done on this ticket.
    have same : other = piece.job.ticket :=
      List.inj_on_of_nodup_map passes.nodup ((Cycle.underCap_sublist _ _).subset alsoTaken)
        ((Cycle.underCap_sublist _ _).subset taken) (named.symm.trans did.named)
    rw [same] at tells
    rcases (tells.exists_iff distinct known acts).mpr fires with ⟨execution, noted, ofRule⟩
    exact ⟨execution, (passes.mem_appended complete).mpr ⟨piece.done, done, noted⟩, ofRule,
      (tells.about execution noted).1⟩

/-! ## What a dry run foretells -/

/-- What the ids that a dry run of a rule answers tell of a turn from the same world, which reads
these rules and tickets. -/
structure Foretells (engine : Engine) (part : Part S World) (store : Tickets.Store S)
    (turn : Turn S) (rules : List Rule) (tickets : List Ticket) (rule : Rule)
    (ids : List String) : Prop where
  /-- They are of tickets that the turn takes, in the order of the listing, which is that of their
  creation where the stock is in order. -/
  listed : Exists fun foretold : List Ticket => ids = foretold.map Ticket.id ∧
    foretold.Sublist (underCap turn.pace.cap tickets) ∧
    (engine.home.IsInOrder engine.vocabulary.closedStatuses (part.get turn.state).stock ->
      foretold.Pairwise fun a b => (Shelf.order a b).isLE = true)
  /-- The turn ends with a report.  Where it leaves none of its tickets over and loses no execution,
  it records one of the rule on exactly these tickets. -/
  recorded : Exists fun report => (turn.outcome (engine.deskIn part store)).1 = .ok report ∧
    Exists fun appended =>
      Trail.Grew (part.get turn.state).trailRows
        (part.get (turn.after (engine.deskIn part store))).trailRows appended ∧
      (report.ticketsDeferred = overCap turn.pace.cap tickets -> report.auditFailures = 0 ->
        forall id, id ∈ ids ↔ Exists fun execution => execution ∈ appended ∧
          execution.ruleId = rule.id ∧ execution.ticketId = id)
  /-- They are the ids under which the rule stands when all rules are matched against all tickets
  of the turn. -/
  matched : forall id, id ∈ ids ↔ Exists fun firing =>
    (id, firing) ∈ Matching.all engine.scale rules (underCap turn.pace.cap tickets)
      (part.get turn.state).clock.instant ∧ rule ∈ firing
  /-- And what stands under an id is what sorting out the rules on that ticket says. -/
  entries : forall id firing,
    (id, firing) ∈ Matching.all engine.scale rules (underCap turn.pace.cap tickets)
        (part.get turn.state).clock.instant ->
      Exists fun ticket => ticket ∈ underCap turn.pace.cap tickets ∧ ticket.id = id ∧
        Exists fun matching => matching.firing = firing ∧
          ((engine.deskIn part store).sortOut rules ticket
            (part.get turn.state).clock.instant).perform turn.state = (.ok matching, turn.state)

/-- The tickets among those of a turn on which a rule fires foretell the turn. -/
theorem Hampers.foretells (hampers : engine.Hampers part store) (lawful : part.IsLawful)
    (ready : engine.IsReady (part.get turn.state)) (distinct : (rules.map Rule.id).Nodup)
    (read : (turn.readings (engine.deskIn part store)).1 = .ok (rules, tickets)) {rule : Rule}
    (active : rule ∈ rules) (acts : rule.actions ≠ []) :
    engine.Foretells part store turn rules tickets rule
      (((underCap turn.pace.cap tickets).filter fun ticket =>
        rule.fires engine.scale ticket (part.get turn.state).clock.instant).map Ticket.id) := by
  rcases hampers.passes lawful turn ready read with ⟨pieces, report, passes⟩
  have once : ((underCap turn.pace.cap tickets).map Ticket.id).Nodup :=
    passes.nodup.sublist ((Cycle.underCap_sublist _ _).map Ticket.id)
  have member (id : String) : id ∈ ((underCap turn.pace.cap tickets).filter fun ticket =>
        rule.fires engine.scale ticket (part.get turn.state).clock.instant).map Ticket.id ↔
      Exists fun ticket => ticket ∈ underCap turn.pace.cap tickets ∧ ticket.id = id ∧
        rule.fires engine.scale ticket (part.get turn.state).clock.instant = true := by
    rw [List.mem_map]
    refine exists_congr fun ticket => ?_
    rw [List.mem_filter, and_assoc, and_comm (a := _ = id)]
  refine ⟨⟨_, rfl, List.filter_sublist, fun inOrder => ?_⟩, ?_, fun id => ?_, ?_⟩
  · have sorted := TicketHome.pairwise_listing inOrder
      (hampers.listing_of_readings lawful ready.calm read)
    exact sorted.sublist (List.filter_sublist.trans (Cycle.underCap_sublist _ _))
  · refine ⟨report, passes.answered, _, (passes.chain.spec ready).2.2.2, ?_⟩
    intro undeferred complete id
    rw [member]
    exact (passes.records_iff hampers lawful ready distinct read undeferred complete active
      acts).symm
  · rw [member]
    constructor
    · rintro ⟨ticket, taken, named, fires⟩
      have among := (Matching.mem_firing_iff active).mpr fires
      exact ⟨_, (Matching.mem_all once).mpr ⟨ticket, taken, named, rfl,
        List.ne_nil_of_mem among⟩, among⟩
    · rintro ⟨firing, entry, among⟩
      rcases (Matching.mem_all once).mp entry with ⟨ticket, taken, named, rfl, _⟩
      exact ⟨ticket, taken, named, (Matching.mem_firing_iff active).mp among⟩
  · intro id firing entry
    rcases (Matching.mem_all once).mp entry with ⟨ticket, taken, named, same, _⟩
    exact ⟨ticket, taken, named, _, same, rfl⟩

/--
Whatever has become of an engine that began without rules: a dry run changes nothing, and what it
answers for an active rule foretells a turn from the same world that reads its rules and tickets.
For tickets in the database this takes a cap that fits its numbers; their listing is in order where
their creation is written as the store writes it.
-/
theorem dry_run_foretells (hampers : engine.Hampers part store) (lawful : part.IsLawful)
    {first last : S} (calm : (part.get first).IsCalm) (empty : (part.get first).ruleRows = some [])
    (history : engine.History part store first last) (ready : engine.IsReady (part.get last)) :
    (forall cap id, World.Leaves World.contents (part.get last)
      ((engine.desk.testRule cap id).perform (part.get last)).2) ∧
    ((forall rows, (part.get last).stock.2 = some rows -> forall row ticket,
        row ∈ openRows engine.vocabulary.closedStatuses rows -> Tickets.Reads row ticket ->
          row.createdAt = .text ticket.createdAt.text) ->
      engine.home.IsInOrder engine.vocabulary.closedStatuses (part.get last).stock) ∧
    forall turn : Turn S, turn.state = last ->
      (engine.home = .database -> IsLimit (some turn.pace.cap)) ->
      forall rules tickets,
        (turn.readings (engine.deskIn part store)).1 = .ok (rules, tickets) ->
        forall rule, rule ∈ rules -> Exists fun ids =>
          ((engine.desk.testRule turn.pace.cap rule.id).perform (part.get last)).1 = .ok ids ∧
          engine.Foretells part store turn rules tickets rule ids := by
  refine ⟨fun cap id => testRule_spares cap id _, isInOrder_of_text ready, ?_⟩
  rintro turn rfl asked rules tickets read rule active
  have opening : engine.IsProtected (part.get first) := ⟨[], ⟨calm, empty⟩, .nil _⟩
  rcases history.isProtected lawful hampers.sparesRules opening with ⟨held, holds, kept⟩
  have stored := kept.toAreStored
  have known := rules_of_readings lawful holds kept read
  have distinct : (rules.map Rule.id).Nodup := by
    rw [known, ((Rule.ordered_perm _).map Rule.id).nodup_iff]
    exact stored.once.sublist (List.filter_sublist.map Rule.id)
  have inside := active
  rw [known, Rule.mem_ordered, List.mem_filter] at inside
  have listed := hampers.listing_of_readings lawful ready.calm read
  exact ⟨_, perform_testRule holds stored inside.1 inside.2
      (TicketHome.listing_underCap listed asked),
    hampers.foretells lawful ready distinct read active
      (stored.each rule inside.1).sound.someActions⟩

/-- The small engine after its third rule was added. -/
def ruled : World := added Sample.later (Sample.world [])

/-- A dry run of this rule foretells the ticket about which a turn then records an execution. -/
theorem dry_run_foretells_of_later :
    ((Sample.engine.desk.testRule 5000 "later").perform ruled).1 = .ok ["1"] ∧
    Exists fun appended =>
      Trail.Grew ruled.trailRows ((Sample.turn ruled).after Sample.engine.desk).trailRows
        appended ∧
      Exists fun execution => execution ∈ appended ∧ execution.ruleId = "later" ∧
        execution.ticketId = "1" := by
  have calm : (Sample.world []).IsCalm := (Sample.isReady_world []).calm
  have history : Sample.engine.History (Part.whole World) Sample.engine.tickets (Sample.world [])
      ruled := .operation (.call (.add Sample.later)) Sample.later_isSound .start
  have isProtected : Sample.engine.IsProtected ruled :=
    history.isProtected Part.whole_isLawful (tickets_sparesRules _) ⟨[], ⟨calm, rfl⟩, .nil _⟩
  rcases isProtected with ⟨_, holds, _⟩
  have ready : Sample.engine.IsReady ruled := ⟨holds.rest, rfl, Sample.ticket_isSound⟩
  have named : ((Sample.turn ruled).readings Sample.engine.desk).1.toOption.map
      (fun inputs => inputs.1.map Rule.id) = some ["later"] := by decide +kernel
  cases read : ((Sample.turn ruled).readings Sample.engine.desk).1 with
  | error failure =>
      rw [read] at named
      cases named
  | ok inputs =>
      rw [read] at named
      have ids : inputs.1.map Rule.id = ["later"] := Option.some.inj named
      rcases List.mem_map.mp (ids ▸ List.mem_cons_self) with ⟨rule, active, later⟩
      rcases (dry_run_foretells (tickets_hampers Sample.engine) Part.whole_isLawful calm rfl
        history ready).2.2 (Sample.turn ruled) rfl (fun other => by cases other) inputs.1 inputs.2
        read rule active with ⟨ids, tested, foretells⟩
      have answer : ((Sample.engine.desk.testRule 5000 "later").perform ruled).1.mapError
          Failure.report = .ok ["1"] := by decide +kernel
      have answered := Result.mapError_eq_ok_iff.mp answer
      rw [later] at tested
      cases tested.symm.trans answered
      rcases foretells.recorded with ⟨report, reported, appended, grew, records⟩
      have failures : ((Sample.turn ruled).outcome Sample.engine.desk).1.toOption.map
          Report.auditFailures = some 0 := by decide +kernel
      have complete : some report.auditFailures = some 0 := by
        rw [<- failures]
        exact congrArg (fun answer => answer.toOption.map Report.auditFailures) reported.symm
      have undeferred := (tickets_hampers Sample.engine).undeferred Part.whole_isLawful
        (Sample.turn ruled) ready read (Sample.prompt _ _) reported
      rcases (records undeferred (Option.some.inj complete) "1").mp List.mem_cons_self with
        ⟨execution, noted, ofRule, about⟩
      exact ⟨answered, appended, grew, execution, noted, ofRule.trans later, about⟩

/-! ## A cap that does not fit -/

/-- The small engine with its tickets in the database. -/
def tabled : Engine := { Sample.engine with home := .database }

/-- Its world after its ticket was put and its first rule was added. -/
def tabledWorld : World :=
  added Sample.early ((tabled.tickets.put Sample.ticket).perform
    { Sample.world [] with shelf := [] , database := .make 1 ⟨some [], some [], some [], none⟩ }).2

/-- A turn of it that takes on as many tickets as there may be. -/
def hugeTurn : Turn World :=
  { Sample.turn tabledWorld with
    pace := { (Sample.turn tabledWorld).pace with cap := Tickets.hugeLimit } }

/-- Under a cap that does not fit the numbers of the database there is no dry run, though the turn
goes through and records an execution of the rule. -/
theorem huge_cap_foretells_nothing :
    ((tabled.desk.testRule hugeTurn.pace.cap "early").perform tabledWorld).1.mapError
        Failure.report = .error "Python int too large to convert to SQLite INTEGER" ∧
    (((hugeTurn.outcome tabled.desk).1.toOption.map fun report =>
      (report.aborted, report.ticketsDeferred, report.auditFailures)) = some (false, 0, 0)) ∧
    (((hugeTurn.after tabled.desk).trailRows.getD []).map fun row =>
      (row.ruleId.isText "early", row.ticketId.isText "1")) = [(true, true)] := by
  refine ⟨by decide +kernel, by decide +kernel, by decide +kernel⟩

end Engine
end Triage
