import Triage.Proofs.Admitted
import Triage.Proofs.Beginning
import Triage.Proofs.RuleRuns
import Triage.Proofs.Tickets.Slots
import Triage.Proofs.Trail
import Triage.Proofs.TurnsAlong

namespace Triage

/-!
# The vocabulary protects the engine

Rules get into the catalog of an engine only through operations that review them in its vocabulary.
So whatever was done to the catalog, whatever turns there were in between, and whatever else happened
away from the table of rules, each stored rule would still pass its review.

Turns make their plans of such rules only.  What they ask a store to change are therefore statuses,
priorities and assignees, each to a word of the vocabulary, and the conditions that they evaluate
have answers, except where it is the ticket whose priority has no rank.  Of the store nothing is
assumed but that it leaves the rules alone; it may fail as it likes, and answer what it likes.
-/

open Rules (AreKept IsHolding Gives Maintains)
open Cycle (Turn)

/-! ## What a store is asked for -/

namespace Tickets

variable {S : Type}

/-- A change that a store was asked for. -/
structure Asked where
  id : String
  updates : Updates
  expected : Option Instant

/-- Updates that set aspects of a ticket and nothing else, and each of them to one of its words. -/
def Updates.IsWithin (vocabulary : Vocabulary) (updates : Updates) : Prop :=
  forall update, update ∈ updates -> Exists fun aspect : Aspect => Exists fun word =>
    update = (aspect.name, some word) ∧ word ∈ vocabulary.words aspect

/-- A state beside the changes that were asked for. -/
def beside : Part (S × List Asked) S := ⟨Prod.fst, fun after state => (after, state.2)⟩

/-- The same store, which also writes down every change that it is asked for. -/
def Store.noting (store : Store S) : Store (S × List Asked) :=
  { store.within beside with
    change := fun id updates expected => do
      Act.change fun state => (state.1, state.2 ++ [⟨id, updates, expected⟩])
      beside.perform (store.change id updates expected) }

/-- To write a change down makes no difference to the store. -/
theorem perform_noting_change (store : Store S) (id : String) (updates : Updates)
    (expected : Option Instant) (state : S × List Asked) :
    (store.noting.change id updates expected).perform state =
      (((store.change id updates expected).perform state.1).1,
        ((store.change id updates expected).perform state.1).2,
          state.2 ++ [⟨id, updates, expected⟩]) := rfl

/-- Nothing has happened to the table of rules. -/
def RulesStay (part : Part S World) (before after : S) : Prop :=
  World.Leaves World.ruleRows (part.get before) (part.get after)

/-- A store that leaves the table of rules alone, whatever else it does. -/
structure Store.SparesRules (store : Store S) (part : Part S World) : Prop where
  listOpen : (store.listOpen none).Along (RulesStay part)
  find : forall id, (store.find id).Along (RulesStay part)
  change : forall id updates expected,
    (store.change id updates (some expected)).Along (RulesStay part)

end Tickets

/-- A part of a state, as a part of the state beside the changes that were asked for. -/
def Part.noting {S : Type} (part : Part S World) : Part (S × List Tickets.Asked) World :=
  ⟨fun state => part.get state.1, fun world state => (part.set world state.1, state.2)⟩

namespace Engine

open Tickets (RulesStay)

variable {S A : Type} {engine : Engine} {part : Part S World} {store : Tickets.Store S}
  {before after : World}

/-! ## The rules stay protected -/

/-- The table of rules holds rules that make sense in the vocabulary of the engine. -/
def IsProtected (engine : Engine) (world : World) : Prop :=
  Exists fun rules => IsHolding world.database rules ∧ AreKept engine.vocabulary rules

theorem IsProtected.of_leaves (isProtected : engine.IsProtected before)
    (leaves : World.Leaves World.ruleRows before after) : engine.IsProtected after := by
  rcases isProtected with ⟨rules, held, kept⟩
  rcases leaves held.rest with ⟨calm, same⟩
  exact ⟨rules, ⟨calm, same.trans held.rows⟩, kept⟩

/-- From protected rules to protected rules. -/
def Protects (engine : Engine) (part : Part S World) (before after : S) : Prop :=
  engine.IsProtected (part.get before) -> engine.IsProtected (part.get after)

theorem protects_of_stay {act : Act S A} (stay : act.Along (RulesStay part)) :
    act.Along (engine.Protects part) :=
  fun state isProtected => isProtected.of_leaves (stay state)

/-- What leaves the table of rules alone in the world leaves it alone in a state. -/
theorem stay_of_spares (lawful : part.IsLawful) {act : Act World A}
    (spares : World.Spares World.ruleRows act) : (part.perform act).Along (RulesStay part) := by
  intro state
  rw [RulesStay, Part.perform_perform, lawful.get_set]
  exact spares _

/-- What keeps the rules of a catalog protects those of the engine. -/
theorem protects_of_gives (lawful : part.IsLawful) {act : Act Database A}
    (gives : forall rules, AreKept engine.vocabulary rules ->
      Exists fun result => Exists fun later =>
        Gives rules act result later ∧ AreKept engine.vocabulary later) :
    (part.perform (World.databasePart.perform act)).Along (engine.Protects part) := by
  rintro state ⟨rules, held, kept⟩
  rcases gives rules kept with ⟨result, later, answers, still⟩
  rw [Part.perform_perform, lawful.get_set]
  exact ⟨later, (answers _ held).2, still⟩

theorem operation_protects (lawful : part.IsLawful) {operation : Rules.Operation}
    (proper : operation.IsProper) :
    (part.perform (World.databasePart.perform (operation.run engine.vocabulary))).Along
      (engine.Protects part) := by
  refine protects_of_gives lawful fun rules kept => ?_
  rcases Rules.Operation.gives kept proper with ⟨result, later, answers, proceeds⟩
  exact ⟨result, later, answers, proceeds.kept⟩

theorem record_sparesRules (execution : Execution) :
    World.Spares World.ruleRows (trail.record execution) := by
  intro world calm
  rcases record_offTrail calm execution with ⟨again, same⟩
  exact ⟨again, (same_of_offTrail same).2.2⟩

theorem drawCycleId_sparesRules : World.Spares World.ruleRows (Act.draw World.drawCycleId) :=
  fun _ calm => ⟨calm, rfl⟩

theorem drawRecordId_sparesRules : World.Spares World.ruleRows (Act.draw World.drawRecordId) :=
  fun _ calm => ⟨calm, rfl⟩

/-- Everything that a cycle asks of the desk of an engine protects the rules. -/
theorem deskIn_protects (lawful : part.IsLawful) (spares : store.SparesRules part) :
    (engine.deskIn part store).RunsAlong (engine.Protects part) where
  refl := fun _ isProtected => isProtected
  trans := fun one two isProtected => two (one isProtected)
  cycleId := protects_of_stay (stay_of_spares lawful drawCycleId_sparesRules)
  recordId := protects_of_stay (stay_of_spares lawful drawRecordId_sparesRules)
  active := by
    have active : (part.perform (World.databasePart.perform Rules.Catalog.active)).Along
        (engine.Protects part) := protects_of_gives lawful fun rules kept =>
      ⟨_, rules, Gives.active kept.toAreStored, kept⟩
    exact active
  listOpen := protects_of_stay spares.listOpen
  record := fun execution => protects_of_stay (stay_of_spares lawful (record_sparesRules execution))
  markExecuted := by
    intro ids executedAt
    refine protects_of_gives lawful fun rules kept => ?_
    have maintains : Maintains engine.vocabulary (fun _ => True) rules
        (Rules.Catalog.markExecuted ids executedAt) := .markExecuted kept ids executedAt
    rcases maintains.gives kept with ⟨result, later, answers, proceeds⟩
    exact ⟨result, later, answers, proceeds.kept⟩

theorem executor_protects (lawful : part.IsLawful) (spares : store.SparesRules part) :
    (engine.executor part store).IsQuiet (engine.Protects part) where
  refl := fun _ isProtected => isProtected
  trans := fun one two isProtected => two (one isProtected)
  find := fun id => protects_of_stay (spares.find id)
  dispatch := by
    intro dispatch known target text
    unfold executor at known
    split at known
    next =>
        cases known
        have sent : World.Spares World.ruleRows (World.dispatch target text) :=
          fun _ calm => ⟨calm, rfl⟩
        exact protects_of_stay (stay_of_spares lawful sent)
    next => cases known
  draw := (deskIn_protects lawful spares).recordId

/-- A turn leaves protected rules protected. -/
theorem turn_protects (lawful : part.IsLawful) (spares : store.SparesRules part) (turn : Turn S) :
    engine.Protects part turn.state (turn.after (engine.deskIn part store)) := by
  refine turn.along (deskIn_protects lawful spares) (decides engine part store) ?_
  intro rules tickets _ ticket _ cycleId
  exact Executor.apply_along (executor_protects lawful spares)
    (fun live planned _ => protects_of_stay (spares.change live.id _ _)) _ _ _

/-! ## What happens to an engine -/

/-- What may happen to an engine whose rules are changed through its catalog only. -/
inductive History (engine : Engine) (part : Part S World) (store : Tickets.Store S)
    (first : S) : S -> Prop
  | start : History engine part store first first
  | operation {between : S} (operation : Rules.Operation) : operation.IsProper ->
      History engine part store first between -> History engine part store first
        ((part.perform (World.databasePart.perform (operation.run engine.vocabulary))).perform
          between).2
  | turn (turn : Turn S) : History engine part store first turn.state ->
      History engine part store first (turn.after (engine.deskIn part store))
  /-- Anything else, as long as it has nothing to do with the table of rules. -/
  | elsewhere {between after : S} : History engine part store first between ->
      RulesStay part between after -> History engine part store first after

theorem History.isProtected (lawful : part.IsLawful) (spares : store.SparesRules part)
    {first last : S} (history : engine.History part store first last)
    (opening : engine.IsProtected (part.get first)) : engine.IsProtected (part.get last) := by
  induction history with
  | start => exact opening
  | operation _ proper _ inductionHypothesis =>
      exact operation_protects lawful proper _ inductionHypothesis
  | turn turn _ inductionHypothesis => exact turn_protects lawful spares turn inductionHypothesis
  | elsewhere _ stay inductionHypothesis => exact inductionHypothesis.of_leaves stay

/-! ## What turns ask for -/

/-- The rules that a turn reads are those that are active among the protected ones. -/
theorem rules_of_readings (lawful : part.IsLawful) {turn : Turn S} {held : List Rule}
    (holds : IsHolding (part.get turn.state).database held)
    (kept : AreKept engine.vocabulary held) {rules : List Rule} {tickets : List Ticket}
    (read : (turn.readings (engine.deskIn part store)).1 = .ok (rules, tickets)) :
    rules = Rule.ordered (held.filter Rule.isActive) := by
  have drawn : part.get (turn.begun (engine.deskIn part store)) =
      (World.drawCycleId (part.get turn.state)).2 := lawful.get_set _ _
  have begun : IsHolding (part.get (turn.begun (engine.deskIn part store))).database held := by
    rw [drawn]
    exact holds
  rcases Act.exists_of_bind_ok (Prod.ext read rfl) with ⟨first, between, active, rest⟩
  rcases Act.exists_of_bind_ok rest with ⟨_, _, _, answered⟩
  cases (Prod.mk.inj answered).1
  have answer := (Gives.active kept.toAreStored _ begun).1
  exact Except.ok.inj ((congrArg Prod.fst active).symm.trans answer)

/-- Between two states changes within a vocabulary were asked for, and no others. -/
def Asks (vocabulary : Vocabulary) (before after : S × List Tickets.Asked) : Prop :=
  Exists fun asked => after.2 = before.2 ++ asked ∧
    forall one, one ∈ asked -> one.updates.IsWithin vocabulary

namespace Asks

variable {vocabulary : Vocabulary} {first second third : S × List Tickets.Asked}

theorem of_eq (same : second.2 = first.2) : Asks vocabulary first second :=
  ⟨[], same.trans (List.append_nil _).symm, by simp⟩

theorem trans (one : Asks vocabulary first second) (two : Asks vocabulary second third) :
    Asks vocabulary first third := by
  rcases one with ⟨asked, reached, within⟩
  rcases two with ⟨more, ended, also⟩
  refine ⟨asked ++ more, by rw [ended, reached, List.append_assoc], fun last member => ?_⟩
  exact (List.mem_append.mp member).elim (within last) (also last)

end Asks

/-- What is no change asks for none. -/
theorem deskIn_asks (engine : Engine) (part : Part S World) (store : Tickets.Store S) :
    (engine.deskIn part.noting store.noting).RunsAlong (Asks engine.vocabulary) where
  refl := fun _ => .of_eq rfl
  trans := .trans
  cycleId := fun _ => .of_eq rfl
  recordId := fun _ => .of_eq rfl
  active := fun _ => .of_eq rfl
  listOpen := fun _ => .of_eq rfl
  record := fun _ _ => .of_eq rfl
  markExecuted := fun _ _ _ => .of_eq rfl

theorem executor_asks (engine : Engine) (part : Part S World) (store : Tickets.Store S) :
    (engine.executor part.noting store.noting).IsQuiet (Asks engine.vocabulary) where
  refl := fun _ => .of_eq rfl
  trans := .trans
  find := fun _ _ => .of_eq rfl
  dispatch := by
    intro dispatch known target text state
    unfold executor at known
    split at known
    next =>
        cases known
        exact .of_eq rfl
    next => cases known
  draw := fun _ => .of_eq rfl

/-- What comes of rules that passed their reviews sets aspects to words of the vocabulary. -/
theorem isWithin_updates {rules : List Rule} (valid : forall rule, rule ∈ rules ->
      (Review.of engine.vocabulary rule).isValid = true)
    {ticket : Ticket} {now : Instant} {planned : List Planned}
    (some_ : planned ⊆ (Plan.onTicket engine.scale rules ticket now).mutations) :
    (Tickets.Updates.ofAspects (Plan.updates planned)).IsWithin engine.vocabulary := by
  intro update member
  rcases List.mem_map.mp member with ⟨⟨aspect, word⟩, inside, rfl⟩
  rcases List.mem_filterMap.mp inside with ⟨one, listed, same⟩
  rcases Option.map_eq_some_iff.mp same with ⟨_, sets, equal⟩
  cases equal
  rcases Plan.mem_rules_of_mutation (some_ listed) with ⟨source, acts⟩
  have known : one.rule ∈ rules := by
    have holds : one.rule ∈ Rule.holdingOn engine.scale rules ticket now := source.elim
      (fun fires => (Matching.mem_firing.mp fires).1)
      (fun rests => (Matching.mem_holding.mp rests).1)
    exact (List.mem_filter.mp holds).1
  exact ⟨aspect, one.action.target, rfl, Review.mem_words_of_isValid (valid one.rule known) acts
    sets⟩

/-- Whatever the store does, a turn on protected rules asks it for changes within the vocabulary. -/
theorem turn_asks (lawful : part.IsLawful) {turn : Turn (S × List Tickets.Asked)}
    (isProtected : engine.IsProtected (part.get turn.state.1)) :
    Asks engine.vocabulary turn.state
      (turn.after (engine.deskIn part.noting store.noting)) := by
  have lawful_ : part.noting.IsLawful := by
    refine ⟨fun _ _ => lawful.get_set _ _, fun state => ?_, fun _ _ state => ?_⟩
    · exact Prod.ext (lawful.set_get state.1) rfl
    · exact Prod.ext (lawful.set_set _ _ state.1) rfl
  rcases isProtected with ⟨held, holds, kept⟩
  refine turn.along (deskIn_asks engine part store) (decides engine _ _) ?_
  intro rules tickets read ticket _ cycleId
  have known := rules_of_readings lawful_ holds kept read
  have valid : forall rule, rule ∈ rules -> (Review.of engine.vocabulary rule).isValid = true := by
    intro rule member
    rw [known] at member
    exact kept.valid rule (List.mem_filter.mp (Rule.mem_ordered.mp member)).1
  refine Executor.apply_along (executor_asks engine part store) (fun live planned some_ => ?_) _ _ _
  intro state
  refine ⟨[⟨live.id, _, _⟩], rfl, fun one member => ?_⟩
  rw [List.mem_singleton.mp member]
  exact isWithin_updates valid some_

/-! ## Stores of an engine -/

/-- The store of an engine leaves the rules alone, in either home of its tickets. -/
theorem tickets_sparesRules (engine : Engine) :
    engine.tickets.SparesRules (Part.whole World) := by
  have inside {B : Type} {act : Act Database B}
      (leaves : act.Along (Database.Pool.Leaves Database.Tables.rules)) :
      World.Spares World.ruleRows (World.databasePart.perform act) :=
    World.Spares.database (fun _ tables => tables.rules) (fun _ _ => rfl) fun _ => leaves
  cases home : engine.home with
  | memory =>
      rw [tickets, home]
      exact ⟨fun _ calm => ⟨calm, rfl⟩, fun _ _ calm => ⟨calm, rfl⟩,
        fun _ _ _ _ calm => ⟨calm, rfl⟩⟩
  | database =>
      rw [tickets, home]
      refine ⟨inside ((Tickets.listOpen_does _).leaves fun _ => rfl),
        fun id => inside ((Tickets.find_does id).leaves fun _ => rfl), fun id updates expected => ?_⟩
      have changes (now : Instant) (values : List (Aspect × Option String)) :
          (Tickets.change now id values (some expected)).Along
            (Database.Pool.Leaves Database.Tables.rules) := by
        intro database rest
        rcases Tickets.change_touches rest now expected id values with ⟨again, touches⟩
        have same := congrArg Database.Tables.rules touches.rest
        exact ⟨again, same⟩
      intro world
      rw [Tickets.perform_on_change]
      exact inside (Rules.Catalog.bind_leaves (Rules.Catalog.ofResult_leaves updates.read)
        (changes world.clock.instant)) world

/-- A store through which an engine does not always reach its own leaves the rules alone as well. -/
theorem Hampers.sparesRules (hampers : engine.Hampers part store) : store.SparesRules part := by
  have stay {B : Type} {own : Act World B} {instead : Except Failure B -> Prop} {act : Act S B}
      (attempts : part.Attempts own instead act) (spares : World.Spares World.ruleRows own) :
      act.Along (RulesStay part) := by
    intro state
    rcases attempts state with ⟨_, reached⟩ | ⟨_, same⟩
    · rw [RulesStay, reached]
      exact spares _
    · rw [RulesStay, same]
      exact .refl _ _
  rcases tickets_sparesRules engine with ⟨listOpen, find, change⟩
  exact ⟨stay hampers.listOpen listOpen, fun id => stay (hampers.find id) (find id),
    fun id updates expected => stay (hampers.change id updates _) (change id updates expected)⟩

end Engine

/-- The rules that apply to a ticket are the active ones whose conditions all answer with yes. -/
theorem Matching.mem_iff {scale : PriorityScale} {rules : List Rule} {ticket : Ticket}
    {now : Instant} {rule : Rule} :
    rule ∈ (Matching.of scale rules ticket now).firing ∨
        rule ∈ (Matching.of scale rules ticket now).holding ↔
      rule ∈ rules ∧ rule.isActive = true ∧ forall condition, condition ∈ rule.conditions ->
        condition.evaluate scale ticket now = .ok true := by
  have answers (condition : Condition) : condition.holds scale ticket now = true ↔
      condition.evaluate scale ticket now = .ok true := by
    rw [Condition.holds]
    cases condition.evaluate scale ticket now with
    | error fault => simp [Condition.answeredYes]
    | ok answer => simp [Condition.answeredYes]
  have holds : rule.holds scale ticket now = true ↔ rule.isActive = true ∧
      forall condition, condition ∈ rule.conditions ->
        condition.evaluate scale ticket now = .ok true := by
    simp only [Rule.holds, Bool.and_eq_true, List.all_eq_true, answers]
  rw [mem_firing, mem_holding, <- and_or_left, Rule.holdingOn, List.mem_filter, holds]
  cases rule.isSatisfied ticket <;> simp

namespace Engine

variable {S : Type} {engine : Engine} {part : Part S World} {store : Tickets.Store S}

/--
Whatever has become of an engine that began without rules: the rules in its catalog pass their
reviews, and a turn on any store that leaves rules alone asks it for changes within the vocabulary
only.  Sorting out which rules apply to a ticket never fails, and a condition of a rule lacks an
answer only where it compares by rank and the ticket has a priority that is not on the scale.
-/
theorem vocabulary_protects (lawful : part.IsLawful)
    (scaled : engine.vocabulary.priorityScale = .ok engine.scale)
    (spares : store.SparesRules part) {first last : S} (calm : (part.get first).IsCalm)
    (empty : (part.get first).ruleRows = some []) (history : engine.History part store first last) :
    Exists fun rules =>
      ((engine.rules.all).perform (part.get last)).1 = .ok (Rule.ordered rules) ∧
      ((engine.rules.active).perform (part.get last)).1 =
        .ok (Rule.ordered (rules.filter Rule.isActive)) ∧
      (forall rule, rule ∈ rules -> (Review.of engine.vocabulary rule).isValid = true) ∧
      (forall turn : Turn (S × List Tickets.Asked), turn.state.1 = last ->
        Exists fun asked =>
          (turn.after (engine.deskIn part.noting store.noting)).2 = turn.state.2 ++ asked ∧
          forall one, one ∈ asked -> one.updates.IsWithin engine.vocabulary) ∧
      (forall ticket now state, Exists fun matching =>
        ((engine.deskIn part store).sortOut rules ticket now).perform state =
          (.ok matching, state) ∧
        forall rule, rule ∈ matching.firing ∨ rule ∈ matching.holding ↔
          rule ∈ rules ∧ rule.isActive = true ∧ forall condition, condition ∈ rule.conditions ->
            condition.evaluate engine.scale ticket now = .ok true) ∧
      (forall rule, rule ∈ rules -> forall condition, condition ∈ rule.conditions ->
        forall ticket now fault, condition.evaluate engine.scale ticket now = .error fault ↔
          condition.IsByRank ∧ ticket.reading .priority ∉ engine.vocabulary.priorities ∧
            fault = .unrankedTicket (ticket.reading .priority)) := by
  have opening : engine.IsProtected (part.get first) := ⟨[], ⟨calm, empty⟩, .nil _⟩
  have isProtected := history.isProtected lawful spares opening
  rcases isProtected with ⟨rules, held, kept⟩
  refine ⟨rules, (Gives.all kept.toAreStored _ held).1, (Gives.active kept.toAreStored _ held).1,
    kept.valid, ?_, ?_, ?_⟩
  · rintro turn rfl
    exact turn_asks lawful ⟨rules, held, kept⟩
  · exact fun ticket now state => ⟨_, rfl, fun _ => Matching.mem_iff⟩
  · intro rule member condition inside ticket now fault
    exact Condition.evaluate_eq_error_iff scaled
      (Review.isAdmitted (kept.each rule member).sound (kept.valid rule member) inside)

/-- Offers a rule to the catalog of the small engine. -/
def added (rule : Rule) (world : World) : World :=
  ((World.databasePart.perform
    ((Rules.Operation.call (.add rule)).run Sample.engine.vocabulary)).perform world).2

/-- The small engine after two rules were offered, the second of which wants a priority that nobody
knows. -/
def offered : World :=
  added (Sample.rule "stranger" .status "On Tech" "Unheard of")
    (added Sample.early (Sample.world []))

/-- A turn of the small engine from there, with its store watched. -/
def watched : World × List Tickets.Asked :=
  (Sample.turn (offered, [])).after
    (Sample.engine.deskIn (Part.whole World).noting Sample.engine.tickets.noting)

theorem vocabulary_protects_offered :
    (Exists fun rules =>
      ((Sample.engine.rules.all).perform offered).1 = .ok (Rule.ordered rules) ∧
      (forall rule, rule ∈ rules ->
        (Review.of Sample.engine.vocabulary rule).isValid = true) ∧
      Exists fun asked => watched.2 = [] ++ asked ∧
        forall one, one ∈ asked -> one.updates.IsWithin Sample.engine.vocabulary) ∧
    (((Sample.engine.rules.all).perform offered).1.toOption.map (List.map Rule.id)) =
      some ["early"] ∧
    watched.2.map Tickets.Asked.updates = [[("priority", some "High")]] := by
  have stranger : (Rules.Operation.call
      (.add (Sample.rule "stranger" .status "On Tech" "Unheard of"))).IsProper :=
    Sample.rule_isSound ⟨by decide +kernel, by decide +kernel, by decide +kernel⟩
      ⟨by decide, by rfl⟩ ⟨by decide +kernel, by decide +kernel⟩
  have history : Sample.engine.History (Part.whole World) Sample.engine.tickets (Sample.world [])
      offered := .operation _ stranger (.operation (.call (.add Sample.early)) Sample.early_isSound
        .start)
  rcases vocabulary_protects Part.whole_isLawful rfl (tickets_sparesRules Sample.engine)
    (Sample.isReady_world []).calm rfl history with ⟨rules, all, _, valid, asks, _⟩
  exact ⟨⟨rules, all, valid, asks (Sample.turn (offered, [])) rfl⟩, by decide +kernel,
    by decide +kernel⟩

end Engine
end Triage
