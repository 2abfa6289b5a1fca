import Triage.Proofs.Beginning
import Triage.Proofs.Records

namespace Triage

/-!
# Turns, as far as one ticket goes

Seen from one ticket, a turn finds some active rules and the ticket, and settles it by the rules
that hold, or leaves it alone.  Turns on different sets of rules are compared by what rules stand
for where they compete: their id, their age and their actions.  Their texts, their conditions and
the times of their execution may differ.
-/

open Triage.Cycle (Turn)
open Rules (activeAmong)

namespace Rule

/-- What counts of a rule where rules compete: its id, its age and its actions. -/
def stake (rule : Rule) : String × Instant × List Action :=
  (rule.id, rule.createdAt, rule.actions)

/-- The rules of two lists have the same stakes. -/
def SameStakes (rules others : List Rule) : Prop :=
  forall stake, stake ∈ rules.map Rule.stake ↔ stake ∈ others.map Rule.stake

theorem SameStakes.symm {rules others : List Rule} (same : SameStakes rules others) :
    SameStakes others rules := fun stake => (same stake).symm

theorem SameStakes.trans {rules others last : List Rule} (one : SameStakes rules others)
    (two : SameStakes others last) : SameStakes rules last :=
  fun stake => (one stake).trans (two stake)

/-- The order of rules is up to their stakes. -/
theorem order_of_stake {one other first second : Rule} (left : one.stake = first.stake)
    (right : other.stake = second.stake) : one.order other = first.order second := by
  rcases Prod.mk.inj left with ⟨leftId, leftRest⟩
  rcases Prod.mk.inj right with ⟨rightId, rightRest⟩
  have leftAge := (Prod.mk.inj leftRest).1
  have rightAge := (Prod.mk.inj rightRest).1
  simp only [Rule.order, leftId, rightId, leftAge, rightAge]

theorem firstOn_of_stake {one other : Rule} (same : one.stake = other.stake) (aspect : Aspect) :
    one.firstOn aspect = other.firstOn aspect := by
  have actions := congrArg (fun stake => stake.2.2) same
  simp only [Rule.stake] at actions
  rw [Rule.firstOn, Rule.firstOn, actions]

/-- Among rules with the same stakes, a rule with the same stake leads. -/
theorem Leads.of_sameStakes {rules others : List Rule} {aspect : Aspect} {rule : Rule}
    {action : Action} (leads : Leads rules aspect rule action) (same : SameStakes rules others) :
    Exists fun other => other.stake = rule.stake ∧ Leads others aspect other action := by
  rcases List.mem_map.mp ((same rule.stake).mp (List.mem_map_of_mem leads.member)) with
    ⟨other, member, equal⟩
  refine ⟨other, equal, member, (firstOn_of_stake equal aspect).trans leads.first, ?_⟩
  intro second inside acts
  rcases List.mem_map.mp ((same second.stake).mpr (List.mem_map_of_mem inside)) with
    ⟨first, known, alike⟩
  rw [<- firstOn_of_stake alike] at acts
  rw [order_of_stake equal alike.symm]
  exact leads.earliest first known acts

/-- Rules with the same stakes have leaders with one id and one action. -/
theorem SameStakes.exists_leaders {rules : List Rule} (distinct : (rules.map Rule.id).Nodup) :
    Exists fun leader : Aspect -> String × Action => forall others, Rule.SameStakes others rules ->
      forall aspect rule action, Rule.Leads others aspect rule action ->
        leader aspect = (rule.id, action) := by
  have each : forall aspect, Exists fun leader : String × Action =>
      forall others, Rule.SameStakes others rules -> forall rule action,
        Rule.Leads others aspect rule action -> leader = (rule.id, action) := by
    intro aspect
    by_cases some_ : Exists fun rule => Exists fun action => Rule.Leads rules aspect rule action
    · rcases some_ with ⟨rule, action, leads⟩
      refine ⟨(rule.id, action), ?_⟩
      intro others same other lead two
      rcases two.of_sameStakes same with ⟨again, stake, leads_⟩
      rcases Rule.Leads.unique distinct leads leads_ with ⟨rfl, rfl⟩
      have named : rule.id = other.id := congrArg Prod.fst stake
      rw [named]
    · refine ⟨("", default), ?_⟩
      intro others same other lead two
      rcases two.of_sameStakes same with ⟨again, _, leads_⟩
      exact False.elim (some_ ⟨again, lead, leads_⟩)
  rcases Classical.axiomOfChoice each with ⟨leader, known⟩
  exact ⟨leader, fun others same aspect rule action leads =>
    known aspect others same rule action leads⟩

/-- Rules that differ only in the times of their execution have the same stakes. -/
theorem SameStakes.of_unexecuted {rules others : List Rule}
    (same : rules.map Rule.unexecuted = others.map Rule.unexecuted) : SameStakes rules others := by
  intro stake
  have seen := congrArg (List.map Rule.stake) same
  rw [List.map_map, List.map_map] at seen
  exact iff_of_eq (congrArg (stake ∈ ·) seen)

theorem actions_of_unexecuted {rule other : Rule} (same : rule.unexecuted = other) :
    rule.actions = other.actions := by
  subst same
  rfl

/-- Of rules that differ only in the times of their execution, one id has one stake. -/
theorem stake_of_unexecuted {rules others : List Rule} (distinct : (rules.map Rule.id).Nodup)
    (same : rules.map Rule.unexecuted = others.map Rule.unexecuted) {rule other : Rule}
    (one : rule ∈ rules) (two : other ∈ others) (named : rule.id = other.id) :
    rule.stake = other.stake := by
  have source : other.unexecuted ∈ rules.map Rule.unexecuted :=
    same ▸ List.mem_map_of_mem two
  rcases List.mem_map.mp source with ⟨known, inside, equal⟩
  have stake : known.stake = other.stake := by
    have seen := congrArg Rule.stake equal
    exact seen
  have id : known.id = other.id := congrArg Prod.fst stake
  rw [List.inj_on_of_nodup_map distinct one inside (named.trans id.symm), stake]

/-- The times of their execution do not count for whether rules hold. -/
theorem holdingOn_unexecuted {scale : PriorityScale} {rules others : List Rule}
    (same : rules.map Rule.unexecuted = others.map Rule.unexecuted) (ticket : Ticket)
    (now : Instant) : (holdingOn scale rules ticket now).map Rule.unexecuted =
      (holdingOn scale others ticket now).map Rule.unexecuted := by
  have inside (rules : List Rule) : (holdingOn scale rules ticket now).map Rule.unexecuted =
      (rules.map Rule.unexecuted).filter fun rule => rule.holds scale ticket now := by
    rw [holdingOn, List.filter_map]
    rfl
  rw [inside, inside, same]

end Rule

namespace Ticket

/-- On each aspect the leader of some rules has what it wants. -/
def IsSettledBy (ticket : Ticket) (holding : List Rule) : Prop :=
  forall aspect rule action, Rule.Leads holding aspect rule action ->
    ticket.reading aspect.toAttribute = action.target

theorem IsSettledBy.of_sameStakes {ticket : Ticket} {holding others : List Rule}
    (settled : ticket.IsSettledBy holding) (same : Rule.SameStakes others holding) :
    ticket.IsSettledBy others := by
  intro aspect rule action leads
  rcases leads.of_sameStakes same with ⟨other, _, again⟩
  exact settled aspect other action again

end Ticket

/-- Nothing is missing on a ticket that is settled by the rules that hold on it. -/
theorem Plan.carriedOut_of_isSettledBy {scale : PriorityScale} {rules : List Rule}
    {ticket : Ticket} {at_ : Instant} (distinct : (rules.map Rule.id).Nodup)
    (settled : ticket.IsSettledBy (Rule.holdingOn scale rules ticket at_)) (now : Stamp) :
    (onTicket scale rules ticket at_).carriedOut now ticket = ticket := by
  rw [carriedOut, if_pos]
  rw [List.eq_nil_iff_forall_not_mem]
  intro planned missing
  rcases Executor.mem_pending.mp missing with ⟨change, absent⟩
  rcases (mem_mutations distinct).mp change with ⟨_, aspect, leads⟩
  have inPlace : ticket.reading aspect.toAttribute = planned.action.target :=
    settled aspect planned.rule planned.action leads
  simp only [Rule.isInPlace, leads.acts, beq_eq_false_iff_ne] at absent
  exact absent inPlace

/-! ## A turn, as far as one ticket goes -/

/-- A turn, together with the rules and the ticket that it finds. -/
structure Watch (S : Type) where
  turn : Turn S
  rules : List Rule
  ticket : Ticket

namespace Watch

variable {S : Type} (engine : Engine) (part : Part S World) (store : Tickets.Store S)
  (id : String) (watch : Watch S)

/-- The active rules whose conditions hold on the ticket at the start of the turn. -/
def holding : List Rule :=
  Rule.holdingOn engine.scale watch.rules watch.ticket (part.get watch.turn.state).clock.instant

/-- The world at the start of the turn has these active rules, and this ticket under the id. -/
structure IsTrue : Prop where
  ready : engine.IsReady (part.get watch.turn.state)
  active : activeAmong (part.get watch.turn.state).ruleRows = .ok watch.rules
  distinct : (watch.rules.map Rule.id).Nodup
  held : engine.held (part.get watch.turn.state) id = .ok (some watch.ticket)

/-- The turn does the job on the ticket, unless there is none. -/
def IsWorked : Prop :=
  (Matching.of engine.scale watch.rules watch.ticket
    (part.get watch.turn.state).clock.instant).firing = [] ∨
  Exists fun done => done ∈ watch.turn.done (engine.deskIn part store) ∧ done.ticketId = id

variable {engine part store id watch}

/-- A turn does nothing, or it passes with the rules of its watch. -/
theorem IsTrue.passes (isTrue : watch.IsTrue engine part id)
    (hampers : engine.Hampers part store) (lawful : part.IsLawful) :
    (Engine.Alike (part.get watch.turn.state)
        (part.get (watch.turn.after (engine.deskIn part store))) ∧
      watch.turn.done (engine.deskIn part store) = []) ∨
      Exists fun tickets => Exists fun pieces => Exists fun report =>
        engine.Passes part store watch.turn watch.rules tickets pieces report := by
  cases read : (watch.turn.readings (engine.deskIn part store)).1 with
  | error failure =>
      rcases hampers.aborts lawful watch.turn isTrue.ready read with ⟨alike, idle, _⟩
      exact Or.inl ⟨alike, idle⟩
  | ok inputs =>
      rcases inputs with ⟨rules, tickets⟩
      rcases hampers.passes lawful watch.turn isTrue.ready read with ⟨pieces, report, passes⟩
      have same : rules = watch.rules :=
        Except.ok.inj (passes.active.symm.trans isTrue.active)
      exact Or.inr ⟨tickets, pieces, report, same ▸ passes⟩

theorem IsTrue.held_of_alike (isTrue : watch.IsTrue engine part id) {after : World}
    (alike : Engine.Alike (part.get watch.turn.state) after) :
    engine.held after id = .ok (some watch.ticket) := by
  rw [Engine.held_of_stock (alike isTrue.ready.calm).2.2.1]
  exact isTrue.held

/-- The next turn finds the same rules, up to the times of their execution. -/
theorem IsTrue.next (isTrue : watch.IsTrue engine part id) (hampers : engine.Hampers part store)
    (lawful : part.IsLawful) (turn : Turn S)
    (follows : turn.state = watch.turn.after (engine.deskIn part store)) {ticket : Ticket}
    (held : engine.held (part.get turn.state) id = .ok (some ticket)) :
    Exists fun later => (Watch.mk turn later ticket).IsTrue engine part id ∧
      later.map Rule.unexecuted = watch.rules.map Rule.unexecuted := by
  have again : engine.IsReady (part.get turn.state) ∧ Exists fun later =>
      activeAmong (part.get turn.state).ruleRows = .ok later ∧
      later.map Rule.unexecuted = watch.rules.map Rule.unexecuted := by
    rw [follows]
    rcases isTrue.passes hampers lawful with ⟨alike, _⟩ | ⟨tickets, pieces, report, passes⟩
    · rcases alike isTrue.ready.calm with ⟨_, _, _, _, noted⟩
      exact ⟨isTrue.ready.alike alike, Rules.activeAmong_noted noted isTrue.active⟩
    · rcases passes.chain.spec isTrue.ready with ⟨ready, _, noted, _⟩
      exact ⟨ready, Rules.activeAmong_noted noted isTrue.active⟩
  rcases again with ⟨ready, later, active, same⟩
  have ids : later.map Rule.id = watch.rules.map Rule.id := by
    have seen := congrArg (List.map Rule.id) same
    rw [List.map_map, List.map_map] at seen
    exact seen
  exact ⟨later, ⟨ready, active, ids ▸ isTrue.distinct, held⟩, same⟩

/-- A turn makes no tickets. -/
theorem IsTrue.held_of_none (isTrue : watch.IsTrue engine part id)
    (hampers : engine.Hampers part store) (lawful : part.IsLawful) {other : String}
    (none_ : engine.held (part.get watch.turn.state) other = .ok none) :
    engine.held (part.get (watch.turn.after (engine.deskIn part store))) other = .ok none := by
  rcases isTrue.passes hampers lawful with ⟨alike, _⟩ | ⟨tickets, pieces, report, passes⟩
  · rw [Engine.held_of_stock (alike isTrue.ready.calm).2.2.1]
    exact none_
  · refine (passes.held_of_not_mem isTrue.ready fun piece member same => ?_).trans none_
    have held := (passes.of_mem member).2.1
    rw [same, none_] at held
    cases held

/-- Whoever is recorded to have lost an aspect lost it to the leader. -/
theorem IsTrue.decided (isTrue : watch.IsTrue engine part id)
    (hampers : engine.Hampers part store) (lawful : part.IsLawful)
    (serves : engine.Serves part store id) {execution : Execution}
    (member : execution ∈ watch.turn.executions (engine.deskIn part store))
    (named : execution.ticketId = id) {action : Action} (inside : action ∈ execution.actions)
    {aspect : Aspect} (acts : action.aspect? = some aspect) :
    Exists fun winner => Exists fun lead =>
      Rule.Leads (watch.holding engine part) aspect winner lead ∧
      (execution.supersededBy = some winner.id ∨
        execution.supersededBy = none ∧ execution.ruleId = winner.id ∧ action = lead) := by
  subst named
  rcases isTrue.passes hampers lawful with ⟨_, idle⟩ | ⟨tickets, pieces, report, passes⟩
  · rw [Turn.executions, idle] at member
    cases member
  · rcases passes.recorded isTrue.distinct isTrue.ready member serves isTrue.held inside acts with
      ⟨rule, known, nobody, leads, _⟩ | ⟨_, _, _, _, _, winner, lead, superseded, leads⟩
    · exact ⟨rule, action, leads, Or.inr ⟨nobody, known.symm, rfl⟩⟩
    · exact ⟨winner, lead, leads, Or.inl superseded⟩

/-- A turn that does the job on a ticket settles it. -/
theorem IsTrue.settles (isTrue : watch.IsTrue engine part id)
    (hampers : engine.Hampers part store) (lawful : part.IsLawful)
    (serves : engine.Serves part store id) (worked : watch.IsWorked engine part store id) :
    Exists fun after => engine.held (part.get (watch.turn.after (engine.deskIn part store))) id =
      .ok (some after) ∧ Ticket.Settled (watch.holding engine part)
        (part.get watch.turn.state).clock watch.ticket after := by
  have clean : forall rule, rule ∈ watch.rules -> forall action, action ∈ rule.actions ->
      action.IsClean := fun rule member => Rules.isClean_of_activeAmong isTrue.active member
  have settled : Ticket.Settled (watch.holding engine part) (part.get watch.turn.state).clock
      watch.ticket ((Plan.onTicket engine.scale watch.rules watch.ticket
        (part.get watch.turn.state).clock.instant).carriedOut (part.get watch.turn.state).clock
          watch.ticket) := Plan.settled_carriedOut isTrue.distinct clean _
  have named : watch.ticket.id = id := Engine.id_of_held isTrue.held
  subst named
  rcases isTrue.passes hampers lawful with ⟨alike, none_⟩ | ⟨tickets, pieces, report, passes⟩
  · refine ⟨watch.ticket, isTrue.held_of_alike alike, ?_⟩
    rcases worked with idle | ⟨done, member, _⟩
    · rw [Plan.carriedOut_of_idle idle] at settled
      exact settled
    · rw [none_] at member
      cases member
  · refine ⟨_, passes.settles isTrue.ready serves isTrue.held ?_, settled⟩
    rcases worked with idle | ⟨done, member, same⟩
    · exact Or.inl idle
    · rcases passes.exists_of_done member with ⟨piece, inside, _, about⟩
      exact Or.inr ⟨piece, inside, passes.ticket_eq inside ((about.trans same) ▸ isTrue.held)⟩

end Watch

/-! ## The small engine, turn after turn -/

namespace Sample

/-- The first turn with some rules. -/
def opening (rules : List Rule) : Watch World := ⟨turn (world rules), rules, ticket⟩

/-- The turn after the first one. -/
def sequel (rules : List Rule) : Turn World := turn ((opening rules).turn.after engine.desk)

theorem opening_isTrue {rules : List Rule} (some_ : rules.Sublist [early, late, later]) :
    (opening rules).IsTrue engine (Part.whole World) ticket.id := by
  have all : ([early, late, later].map Rule.id).Nodup := by decide
  exact ⟨isReady_world rules, active_world some_, all.sublist (some_.map Rule.id),
    Engine.held_beginning rfl ticket_isSound List.mem_cons_self⟩

/-- A rule of the small engine holds where its word is read. -/
theorem rule_holds {criterion : Criterion} {attribute_ : Attribute}
    (on : criterion.toAttribute? = some attribute_) (id word target : String) (found : Ticket)
    (now : Instant) : (rule id criterion word target).holds engine.scale found now =
      (found.reading attribute_ == word) := by
  have each : (rule id criterion word target).holds engine.scale found now =
      (true && ((found.reading attribute_ == word) && true)) := by
    cases criterion <;> cases on <;> rfl
  rw [each, Bool.true_and, Bool.and_true]

/-- The second and the third rule hold together. -/
theorem holdingOn_status {found : Ticket} (status : found.reading .status = "On Tech")
    {now : Instant} :
    Rule.holdingOn engine.scale [late, later] found now = [late, later] := by
  have read : (found.reading .status == "On Tech") = true := beq_iff_eq.mpr status
  have first : late.holds engine.scale found now = true :=
    (rule_holds rfl "late" "On Tech" "Urgent" found now).trans read
  have second : later.holds engine.scale found now = true :=
    (rule_holds rfl "later" "On Tech" "Medium" found now).trans read
  refine List.filter_eq_self.mpr fun rule member => ?_
  rcases List.mem_cons.mp member with rfl | behind
  · exact first
  · exact List.mem_singleton.mp behind ▸ second

/-- Where the priority has been lifted, of the first two rules only the second one holds. -/
theorem second_leads {rules : List Rule} {found : Ticket} {now : Instant}
    (same : rules.map Rule.unexecuted = [early, late].map Rule.unexecuted)
    (status : found.reading .status = "On Tech") (priority : found.reading .priority = "High") :
    Exists fun rule => rule.id = "late" ∧
      Rule.Leads (Rule.holdingOn engine.scale rules found now) .priority rule
        ⟨.updatePriority, "Urgent"⟩ ∧
      rule ∈ (Matching.of engine.scale rules found now).firing := by
  have first : early.holds engine.scale found now = false := by
    refine (rule_holds rfl "early" "Low" "High" found now).trans ?_
    rw [priority]
    decide
  have second : late.holds engine.scale found now = true :=
    (rule_holds rfl "late" "On Tech" "Urgent" found now).trans (beq_iff_eq.mpr status)
  have only : (Rule.holdingOn engine.scale rules found now).map Rule.unexecuted = [late] := by
    rw [Rule.holdingOn_unexecuted same]
    have kept : Rule.holdingOn engine.scale [early, late] found now = [late] := by
      simp only [Rule.holdingOn, List.filter_cons, List.filter_nil, first, second]
      rfl
    rw [kept]
    rfl
  rcases List.map_eq_singleton_iff.mp only with ⟨rule, holding, unexecuted⟩
  have actions : rule.actions = [⟨.updatePriority, "Urgent"⟩] :=
    Rule.actions_of_unexecuted unexecuted
  have missing : found.reading .priority ≠ "Urgent" := priority ▸ by decide
  have leads : Rule.Leads (Rule.holdingOn engine.scale rules found now) .priority rule
      ⟨.updatePriority, "Urgent"⟩ := by
    rw [holding]
    refine ⟨List.mem_cons_self, ?_, fun other member _ => ?_⟩
    · rw [Rule.firstOn, actions]
      rfl
    · rw [List.mem_singleton.mp member]
      exact Std.ReflCmp.isLE_rfl
  refine ⟨rule, congrArg Rule.id unexecuted, leads, Matching.mem_firing.mpr ⟨leads.member, ?_⟩⟩
  exact Rule.isSatisfied_eq_false leads.mem_actions leads.acts missing

/-- None of the rules acts on a status. -/
theorem not_leads_status {rules : List Rule} {found : Ticket} {now : Instant} {rule : Rule}
    {action : Action} (some_ : rules.Sublist [early, late, later]) :
    ¬Rule.Leads (Rule.holdingOn engine.scale rules found now) .status rule action := by
  intro leads
  have idle : forall rule, rule ∈ [early, late, later] -> rule.firstOn .status = none := by
    intro rule member
    rw [List.mem_cons, List.mem_cons, List.mem_singleton] at member
    rcases member with rfl | rfl | rfl <;> rfl
  have first := leads.first
  rw [idle rule (some_.subset (List.mem_filter.mp leads.member).1)] at first
  cases first

/-- In the small world there is nothing but the ticket. -/
theorem held_world {rules : List Rule} {id : String} (other : id ≠ ticket.id) :
    engine.held (world rules) id = .ok none := by
  have missing : Tickets.Shelf.find? [ticket] id = none := by
    rw [Tickets.Shelf.find?, List.find?_cons_of_neg, List.find?_nil]
    rw [beq_iff_eq]
    exact other.symm
  exact congrArg Except.ok missing

/-- Where there is nothing but the ticket and a rule fires on it, a turn does the job on it. -/
theorem exists_done {state : World} {rules : List Rule} {found : Ticket}
    (isTrue : (Watch.mk (turn state) rules found).IsTrue engine (Part.whole World) ticket.id)
    (single : forall id, id ≠ ticket.id -> engine.held state id = .ok none)
    (isOpen : Tickets.Shelf.isOpen Vocabulary.standard.closedStatuses found = true)
    (fires : (Matching.of engine.scale rules found state.clock.instant).firing ≠ []) :
    Exists fun done => done ∈ (turn state).done engine.desk ∧ done.ticketId = ticket.id := by
  have hampers := Engine.tickets_hampers engine
  have read := @Engine.readings_in_memory engine rfl (turn state) isTrue.ready.calm rules
    isTrue.active
  rcases hampers.passes Part.whole_isLawful (turn state) isTrue.ready read with
    ⟨pieces, report, passes⟩
  generalize Tickets.Shelf.listOpen _ none _ = tickets at passes
  have named : found.id = ticket.id := Engine.id_of_held isTrue.held
  have listed : found ∈ tickets := by
    refine (passes.listed found).mpr ⟨named ▸ isTrue.held, ?_⟩
    have stored : state.shelf.find? ticket.id = some found := Except.ok.inj isTrue.held
    rw [named]
    exact (congrArg (Option.any _) stored).trans isOpen
  have same : forall other, other ∈ tickets -> other.id = ticket.id := by
    intro other member
    by_contra different
    have held := ((passes.listed other).mp member).1
    have none_ : engine.held state other.id = .ok none := single other.id different
    cases none_.symm.trans held
  have few : tickets.length ≤ 1 := by
    have ids : tickets.map Ticket.id = List.replicate tickets.length ticket.id := by
      rw [List.eq_replicate_iff, List.length_map]
      refine ⟨rfl, fun id member => ?_⟩
      rcases List.mem_map.mp member with ⟨other, inside, rfl⟩
      exact same other inside
    have once := passes.nodup
    rw [ids, List.nodup_replicate] at once
    exact once
  have all : Cycle.underCap (turn state).pace.cap tickets = tickets := by
    refine Cycle.underCap_of_le ?_
    have cap : (turn state).pace.cap = 5000 := rfl
    omega
  rcases passes.exists_of_undeferred (passes.prompt (prompt _ _)) (all.symm ▸ listed) fires with
    ⟨piece, member, rfl⟩
  rcases passes.chain.did member with ⟨_, _, did⟩
  exact ⟨piece.done, passes.done_eq ▸ List.mem_map_of_mem member, did.named.trans named⟩

/-- The first turn settles the ticket, and the turn after it finds it like that. -/
theorem exists_sequel {rules : List Rule} (some_ : rules.Sublist [early, late, later])
    (fires : (Matching.of engine.scale rules ticket noon.instant).firing ≠ []) :
    (Exists fun done => done ∈ (opening rules).turn.done engine.desk ∧
      done.ticketId = ticket.id) ∧
    Exists fun again => Exists fun found =>
      (Watch.mk (sequel rules) again found).IsTrue engine (Part.whole World) ticket.id ∧
      again.map Rule.unexecuted = rules.map Rule.unexecuted ∧
      (sequel rules).state.clock = noon ∧
      Ticket.Settled (Rule.holdingOn engine.scale rules ticket noon.instant) noon ticket found := by
  have isTrue := opening_isTrue some_
  have hampers := Engine.tickets_hampers engine
  have worked := exists_done isTrue (fun _ other => held_world other) (by decide) fires
  rcases isTrue.settles hampers Part.whole_isLawful (Engine.tickets_serves engine _)
    (Or.inr worked) with ⟨found, held, settled⟩
  rcases isTrue.next hampers Part.whole_isLawful (sequel rules) rfl held with ⟨again, next, same⟩
  refine ⟨worked, again, found, next, same, ?_, settled⟩
  rcases isTrue.passes hampers Part.whole_isLawful with ⟨alike, _⟩ | ⟨_, _, _, passes⟩
  · exact (alike isTrue.ready.calm).2.1
  · exact (passes.chain.spec isTrue.ready).2.1

end Sample

/-! ## A settled ticket stays settled

As long as the same rules hold on a ticket, and nobody else changes it, cycles work on it once.
After that one cycle every leader has what it wants.  Rules that were partly overruled still fire
in each cycle, but nothing is missing: the ticket is not written again, its changes are recorded
as being in place, and whoever lost an aspect lost it to the same rule as ever.
-/

namespace Watch

variable {S : Type}

/-- The turn leaves the ticket as it is, and records its changes as being in place. -/
structure Rests (engine : Engine) (part : Part S World) (store : Tickets.Store S) (id : String)
    (watch : Watch S) : Prop where
  held : engine.held (part.get (watch.turn.after (engine.deskIn part store))) id =
    .ok (some watch.ticket)
  inPlace : forall execution, execution ∈ watch.turn.executions (engine.deskIn part store) ->
    execution.ticketId = id ->
      (Exists fun action => action ∈ execution.actions ∧ action.isMutation = true) ->
        execution.outcome = .skippedDuplicate

variable {engine : Engine} {part : Part S World} {store : Tickets.Store S} {id : String}
  {watch : Watch S}

/-- A turn leaves a ticket that is settled. -/
theorem IsTrue.rests (isTrue : watch.IsTrue engine part id) (hampers : engine.Hampers part store)
    (lawful : part.IsLawful) (serves : engine.Serves part store id)
    (settled : watch.ticket.IsSettledBy (watch.holding engine part)) :
    watch.Rests engine part store id := by
  have named : watch.ticket.id = id := Engine.id_of_held isTrue.held
  rcases isTrue.passes hampers lawful with ⟨alike, idle⟩ | ⟨tickets, pieces, report, passes⟩
  · refine ⟨isTrue.held_of_alike alike, fun execution member => ?_⟩
    rw [Cycle.Turn.executions, idle] at member
    cases member
  · constructor
    · by_cases worked : Exists fun piece => piece ∈ pieces ∧ piece.job.ticket.id = id
      · rcases worked with ⟨piece, member, same⟩
        have ticket := passes.ticket_eq member (same ▸ isTrue.held)
        have after := passes.held_of_mem isTrue.ready member (same ▸ serves)
        rw [ticket, Plan.carriedOut_of_isSettledBy isTrue.distinct settled, named] at after
        exact after
      · have absent : forall piece, piece ∈ pieces -> piece.job.ticket.id ≠ id :=
          fun piece member same => worked ⟨piece, member, same⟩
        exact (passes.held_of_not_mem isTrue.ready absent).trans isTrue.held
    · rintro execution member about ⟨action, inside, mutation⟩
      subst about
      rcases Option.isSome_iff_exists.mp mutation with ⟨aspect, acts⟩
      rcases passes.recorded isTrue.distinct isTrue.ready member serves isTrue.held inside acts with
        ⟨rule, _, _, leads, became⟩ | ⟨skipped, _⟩
      · rw [became, if_pos (settled aspect rule action leads)]
      · exact skipped

end Watch

namespace Engine

variable {S : Type} {engine : Engine} {part : Part S World} {store : Tickets.Store S}

/--
Turns in which rules with the same stakes hold on a ticket that only the engine changes.  Once one
of them has done its job on the ticket, or found nothing to do, all later ones leave the ticket
exactly as it is and record its changes as being in place.  In all of them every aspect is won by
one and the same rule.
-/
theorem stays_settled (hampers : engine.Hampers part store) (lawful : part.IsLawful) {id : String}
    (serves : engine.Serves part store id) {watches : Nat -> Watch S} {last : Nat}
    (isTrue : forall n, n ≤ last -> (watches n).IsTrue engine part id)
    (alone : forall n, n < last ->
      engine.held (part.get (watches (n + 1)).turn.state) id =
        engine.held (part.get ((watches n).turn.after (engine.deskIn part store))) id)
    (same : forall n, n ≤ last ->
      Rule.SameStakes ((watches n).holding engine part) ((watches 0).holding engine part))
    {first : Nat} (inside : first ≤ last)
    (worked : (watches first).IsWorked engine part store id) :
    (Exists fun settled =>
      engine.held (part.get ((watches first).turn.after (engine.deskIn part store))) id =
        .ok (some settled) ∧
      forall n, first < n -> n ≤ last ->
        (watches n).ticket = settled ∧ (watches n).Rests engine part store id) ∧
    Exists fun leader : Aspect -> String × Action => forall n, n ≤ last ->
      forall execution, execution ∈ (watches n).turn.executions (engine.deskIn part store) ->
        execution.ticketId = id -> forall action, action ∈ execution.actions ->
          forall aspect, action.aspect? = some aspect ->
            execution.supersededBy = some (leader aspect).1 ∨
              execution.supersededBy = none ∧ leader aspect = (execution.ruleId, action) := by
  constructor
  · rcases (isTrue first inside).settles hampers lawful serves worked with
      ⟨settled, held, outcome⟩
    have isSettled : settled.IsSettledBy ((watches first).holding engine part) := outcome.led
    have rests : forall n, n ≤ last ->
        engine.held (part.get (watches n).turn.state) id = .ok (some settled) ->
          (watches n).ticket = settled ∧ (watches n).Rests engine part store id := by
      intro n within before
      rw [(isTrue n within).held] at before
      have ticket := Option.some.inj (Except.ok.inj before)
      refine ⟨ticket, (isTrue n within).rests hampers lawful serves ?_⟩
      rw [ticket]
      exact isSettled.of_sameStakes ((same n within).trans (same first inside).symm)
    have before : forall n, first < n -> n ≤ last ->
        engine.held (part.get (watches n).turn.state) id = .ok (some settled) := by
      intro n behind
      induction behind with
      | refl =>
          intro within
          exact (alone first within).trans held
      | @step n _ inductionHypothesis =>
          intro within
          rcases rests n (Nat.le_of_succ_le within)
            (inductionHypothesis (Nat.le_of_succ_le within)) with ⟨ticket, still⟩
          exact ticket ▸ (alone n within).trans still.held
    exact ⟨settled, held, fun n behind within => rests n within (before n behind within)⟩
  · rcases Rule.SameStakes.exists_leaders (Plan.nodup_holdingOn (isTrue 0 (Nat.zero_le last)).distinct) with
      ⟨leader, known⟩
    refine ⟨leader, ?_⟩
    intro n within execution member named action taken aspect acts
    rcases (isTrue n within).decided hampers lawful serves member named taken acts with
      ⟨winner, lead, leads, lost | ⟨nobody, ruleId, rfl⟩⟩
    · refine Or.inl ?_
      rw [known _ (same n within) aspect winner lead leads]
      exact lost
    · refine Or.inr ⟨nobody, ?_⟩
      rw [known _ (same n within) aspect winner action leads, ruleId]

/-- In the second turn the small engine leaves the ticket as the first one has settled it. -/
theorem later_stays_settled : Exists fun settled =>
    settled.reading .priority = "Urgent" ∧
    Sample.engine.held (Sample.sequel [Sample.late, Sample.later]).state Sample.ticket.id =
      .ok (some settled) ∧
    Sample.engine.held ((Sample.sequel [Sample.late, Sample.later]).after Sample.engine.desk)
      Sample.ticket.id = .ok (some settled) := by
  have some_ : [Sample.late, Sample.later].Sublist [Sample.early, Sample.late, Sample.later] :=
    List.sublist_cons_self _ _
  have both {found : Ticket} (status : found.reading .status = "On Tech") {now : Instant} :
      Rule.holdingOn Sample.engine.scale [Sample.late, Sample.later] found now =
        [Sample.late, Sample.later] := Sample.holdingOn_status status
  have atFirst : Rule.holdingOn Sample.engine.scale [Sample.late, Sample.later] Sample.ticket
      Sample.noon.instant = [Sample.late, Sample.later] := both rfl
  have leads : Rule.Leads (Rule.holdingOn Sample.engine.scale [Sample.late, Sample.later]
      Sample.ticket Sample.noon.instant) .priority Sample.late ⟨.updatePriority, "Urgent"⟩ :=
    atFirst ▸ Rule.Leads.of_pair rfl (by decide)
  rcases Sample.exists_sequel some_ (List.ne_nil_of_mem
    (Matching.mem_firing.mpr ⟨leads.member, by decide⟩)) with
    ⟨worked, again, found, next, unexecuted, _, outcome⟩
  let watches : Nat -> Watch World := fun n =>
    n.casesOn (Sample.opening [Sample.late, Sample.later])
      fun _ => ⟨Sample.sequel [Sample.late, Sample.later], again, found⟩
  have isTrue : forall n, n ≤ 1 ->
      (watches n).IsTrue Sample.engine (Part.whole World) Sample.ticket.id := by
    intro n within
    cases n with
    | zero => exact Sample.opening_isTrue some_
    | succ n => exact next
  have sameStakes : forall n, n ≤ 1 ->
      Rule.SameStakes ((watches n).holding Sample.engine (Part.whole World))
        ((watches 0).holding Sample.engine (Part.whole World)) := by
    intro n within
    apply Rule.SameStakes.of_unexecuted
    cases n with
    | zero => rfl
    | succ n =>
        have status : found.reading .status = "On Tech" :=
          outcome.unled .status fun rule action leads => Sample.not_leads_status some_ leads
        refine (Rule.holdingOn_unexecuted unexecuted found _).trans ?_
        rw [both status]
        exact (congrArg (List.map Rule.unexecuted) atFirst).symm
  have alone : forall n, n < 1 ->
      Sample.engine.held (watches (n + 1)).turn.state Sample.ticket.id =
        Sample.engine.held ((watches n).turn.after Sample.engine.desk) Sample.ticket.id := by
    intro n within
    rcases Nat.lt_one_iff.mp within with rfl
    rfl
  rcases stays_settled (tickets_hampers Sample.engine) Part.whole_isLawful
    (tickets_serves Sample.engine _) isTrue alone sameStakes (Nat.zero_le 1) (Or.inr worked) with
    ⟨⟨settled, held, rests⟩, _⟩
  rcases rests 1 Nat.one_pos (Nat.le_refl 1) with ⟨rfl, still⟩
  exact ⟨_, outcome.led .priority Sample.late ⟨.updatePriority, "Urgent"⟩ leads, held, still.held⟩

end Engine
end Triage
