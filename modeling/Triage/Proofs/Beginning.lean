import Triage.Proofs.Session
import Triage.Proofs.Stored

namespace Triage

/-!
# Where an engine begins

A world in which nothing has happened yet is ready for an engine that keeps its tickets in memory,
and what was put into it is read from it.  From there on an engine in memory reads whenever its
rules can be read, and a turn that has read them leaves them so that the next turn can.
-/

open Triage.Cycle (Turn)
open Rules (activeAmong)

namespace World

/-- The rows of rules. -/
def rowsOf (rules : List Rule) : List Database.RuleRow :=
  rules.filterMap fun rule => (Database.RuleRow.ofRule rule).toOption

/-- A calm world with some rules and, in memory, some tickets. -/
def beginning (now : Stamp) (rules : List Rule) (tickets : List Ticket) : World where
  clock := now
  seconds := .whole 0
  ids := .none_
  database := .make 1 ⟨some [], some (rowsOf rules), some [], some [Database.Tables.schemaVersion]⟩
  shelf := tickets
  outbox := []

end World

namespace Engine

variable {engine : Engine}

/-- The world at the beginning is ready for an engine that keeps its tickets in memory. -/
theorem isReady_beginning (memory : engine.home = .memory) {now : Stamp}
    (utc : now.offset = some 0) (rules : List Rule) {tickets : List Ticket}
    (sound : Tickets.Shelf.IsSound tickets) :
    engine.IsReady (World.beginning now rules tickets) := by
  refine ⟨Database.Pool.make_isAtRest Int.one_pos _, utc, ?_⟩
  rw [memory]
  exact sound

theorem held_beginning (memory : engine.home = .memory) {now : Stamp} {rules : List Rule}
    {tickets : List Ticket} (sound : Tickets.Shelf.IsSound tickets) {ticket : Ticket}
    (member : ticket ∈ tickets) :
    engine.held (World.beginning now rules tickets) ticket.id = .ok (some ticket) := by
  rw [held, memory]
  exact congrArg Except.ok (Tickets.Shelf.find?_of_mem sound.once member)

/-- The rules that were put into a world are read from it, in the order of their rows. -/
theorem activeAmong_beginning {now : Stamp} {rules : List Rule} {tickets : List Ticket}
    (sound : forall rule, rule ∈ rules -> rule.IsSound)
    (active : forall rule, rule ∈ rules -> rule.isActive = true)
    (narrow : forall rule, rule ∈ rules -> Database.Cell.fits rule.version = true)
    (sorted : (World.rowsOf rules).Pairwise fun a b => (a.order b).isLE = true) :
    activeAmong (World.beginning now rules tickets).ruleRows = .ok (rules.map Rule.stored) := by
  have written : forall rule, rule ∈ rules -> Exists fun row =>
      Database.RuleRow.ofRule rule = .ok row ∧ row.isActiveRow = true := by
    intro rule member
    have version : Database.Cell.ofInt rule.version = .ok (.whole rule.version) := by
      rw [Database.Cell.ofInt, if_pos (narrow rule member)]
    refine ⟨_, by rw [Database.RuleRow.ofRule, version]; rfl, ?_⟩
    simp only [Database.RuleRow.isActiveRow, Database.RuleRow.flag, active rule member, if_true,
      beq_self_eq_true]
  have read : (World.rowsOf rules).mapM Rules.ofRow = .ok (rules.map Rule.stored) ∧
      (World.rowsOf rules).filter Database.RuleRow.isActiveRow = World.rowsOf rules := by
    clear sorted
    induction rules with
    | nil => exact ⟨rfl, rfl⟩
    | cons rule rest inductionHypothesis =>
        rcases written rule List.mem_cons_self with ⟨row, put, shown⟩
        rcases inductionHypothesis (fun other member => sound other (List.mem_cons_of_mem _ member))
          (fun other member => active other (List.mem_cons_of_mem _ member))
          (fun other member => narrow other (List.mem_cons_of_mem _ member))
          (fun other member => written other (List.mem_cons_of_mem _ member)) with ⟨later, kept⟩
        have rows : World.rowsOf (rule :: rest) = row :: World.rowsOf rest := by
          rw [World.rowsOf, List.filterMap_cons_some (by rw [put]; rfl)]
          rfl
        rw [rows]
        refine ⟨?_, by rw [List.filter_cons_of_pos shown, kept]⟩
        rw [List.mapM_cons, Rules.ofRow_ofRule (sound rule List.mem_cons_self) put,
          Result.ok_bind, later]
        rfl
  refine Result.mapError_eq_ok_iff.mpr ?_
  change (((World.rowsOf rules).filter Database.RuleRow.isActiveRow).mergeSort _).mapM _ = _
  rw [read.2, List.mergeSort_of_pairwise sorted]
  exact read.1

/-- An engine with its tickets in memory reads whenever its rules can be read. -/
theorem readings_in_memory (memory : engine.home = .memory) {turn : Turn World}
    (calm : turn.state.IsCalm) {rules : List Rule}
    (active : activeAmong turn.state.ruleRows = .ok rules) :
    (turn.readings engine.desk).1 = .ok (rules,
      turn.state.shelf.listOpen engine.vocabulary.closedStatuses none) := by
  have drawn := begun_standing engine Part.whole_isLawful engine.tickets turn calm
  have begun : (turn.begun engine.desk).IsCalm := drawn.1
  rcases same_of_standing drawn.2 with ⟨_, stock, rows, _⟩
  rcases @perform_active engine _ begun with ⟨read, contents⟩
  have kept : ((engine.rules.active).perform (turn.begun engine.desk)).2.shelf =
      turn.state.shelf := by
    have seen := congrArg World.shelf (contents begun).2
    exact seen.trans (congrArg Prod.fst stock)
  have first : engine.desk.rules.active.perform (turn.begun engine.desk) =
      (.ok rules, ((engine.rules.active).perform (turn.begun engine.desk)).2) := by
    refine Prod.ext (read.trans ?_) rfl
    rw [<- active]
    exact congrArg activeAmong rows
  have listed (world : World) : (engine.desk.tickets.listOpen none).perform world =
      (.ok (world.shelf.listOpen engine.vocabulary.closedStatuses none), world) := by
    have store : engine.desk.tickets = engine.tickets := rfl
    rw [store, Engine.tickets, memory]
    rfl
  rw [Turn.readings, Cycle.read, Act.perform_bind_ok first, Act.perform_bind_ok (listed _), kept]
  rfl

end Engine

/-! ## A small engine -/

namespace Sample

/-- A moment in the afternoon. -/
def noon : Stamp := .ofInstant ⟨63839793600000000, by decide⟩

/-- A rule that sets the priority of tickets with one word in one field. -/
def rule (id : String) (criterion : Criterion) (word target : String) : Rule where
  id := id
  name := id
  description := ""
  conditions := [⟨criterion, .equals, .text word⟩]
  actions := [⟨.updatePriority, target⟩]
  isActive := true
  version := 1
  createdAt := noon.instant
  updatedAt := some noon.instant
  lastExecutedAt := none

/-- The first rule lifts low priorities. -/
def early : Rule := rule "early" .priority "Low" "High"

/-- The second rule lifts the priority of whatever is with a technician. -/
def late : Rule := rule "late" .status "On Tech" "Urgent"

/-- The third rule wants another priority for that, and a message. -/
def later : Rule :=
  let base := rule "later" .status "On Tech" "Medium"
  { base with actions := base.actions ++ [⟨.sendNotification, "front desk"⟩] }

/-- A ticket on which both rules hold. -/
def ticket : Ticket where
  id := "1"
  subject := "Printer"
  status := some "On Tech"
  priority := some "Low"
  assignee := none
  company := none
  category := none
  createdAt := noon.instant
  updatedAt := noon

/-- A second later. -/
def soon : Stamp := .ofInstant ⟨63839793601000000, by decide⟩

/-- The ticket as somebody else stores it, a second after it was changed last. -/
def renamed : Ticket := { ticket with subject := "Printer on fire", updatedAt := soon }

/-- An engine that keeps its tickets in memory. -/
def engine : Engine := ⟨.standard, .standard, .standard, .memory, true⟩

/-- A turn with as much time as it needs. -/
def turn {S : Type} (state : S) : Turn S where
  stopwatch _ := .whole 0
  pace := ⟨true, .whole 300, 5000, .whole 120, .whole 1800, true⟩
  trigger := "manual"
  scheduler := .initial
  state := state

theorem rule_isSound {id word target : String} {criterion : Criterion}
    (named : Rule.isId id = true ∧ Text.IsClean id)
    (textual : criterion.scale.allows .equals = true ∧
      Operand.check criterion (.text word) = .good (.text word))
    (clean : Text.IsClean target) : (rule id criterion word target).IsSound := by
  refine ⟨named.1, named.2, List.cons_ne_nil _ _, ?_, List.cons_ne_nil _ _, ?_, Int.le_refl 1⟩
  · intro condition inside
    rw [List.mem_singleton.mp inside]
    exact ⟨textual.1, textual.2⟩
  · intro action inside
    rw [List.mem_singleton.mp inside]
    exact clean

theorem early_isSound : early.IsSound :=
  rule_isSound ⟨by decide, by decide, by decide⟩ ⟨by decide, by rfl⟩
    ⟨by decide, by decide⟩

theorem late_isSound : late.IsSound :=
  rule_isSound ⟨by decide, by decide, by decide⟩ ⟨by decide, by rfl⟩
    ⟨by decide, by decide⟩

theorem later_isSound : later.IsSound := by
  have base : (rule "later" .status "On Tech" "Medium").IsSound :=
    rule_isSound ⟨by decide, by decide, by decide⟩ ⟨by decide, by rfl⟩
      ⟨by decide, by decide⟩
  refine ⟨base.id, base.name, base.someConditions, base.conditions, List.cons_ne_nil _ _, ?_,
    base.version⟩
  intro action inside
  rcases List.mem_append.mp inside with first | behind
  · exact base.actions action first
  · rw [List.mem_singleton.mp behind]
    exact ⟨by decide, by decide⟩

theorem ticket_isSound : Tickets.Shelf.IsSound [ticket] := by
  refine ⟨List.nodup_singleton _, ?_⟩
  intro other member
  rw [List.mem_singleton.mp member]
  rfl

theorem prompt {S : Type} (base : Desk S) (state : S) : (turn state).IsPrompt base := by
  refine ⟨rfl, fun _ => ?_⟩
  have late : Quantity.le (.whole 120) (.whole 0) = false := by decide
  exact late

/-- The world with some of the rules and the ticket. -/
def world (rules : List Rule) : World := .beginning noon rules [ticket]

theorem isReady_world (rules : List Rule) : engine.IsReady (world rules) :=
  Engine.isReady_beginning rfl rfl rules ticket_isSound

/-- Some of the rules, in their order, are read as they are. -/
theorem active_world {rules : List Rule} (some_ : rules.Sublist [early, late, later]) :
    activeAmong (world rules).ruleRows = .ok rules := by
  have all : (World.rowsOf [early, late, later]).Pairwise fun a b => (a.order b).isLE = true := by
    decide
  have known : forall rule, rule ∈ rules -> rule = early ∨ rule = late ∨ rule = later := by
    intro rule member
    have inside := some_.subset member
    rw [List.mem_cons, List.mem_cons, List.mem_singleton] at inside
    exact inside
  have kept : rules.map Rule.stored = rules := by
    refine (List.map_congr_left fun rule member => ?_).trans (List.map_id rules)
    rcases known rule member with rfl | rfl | rfl <;> rfl
  have each : forall rule, rule ∈ rules ->
      rule.IsSound ∧ rule.isActive = true ∧ Database.Cell.fits rule.version = true := by
    intro rule member
    rcases known rule member with rfl | rfl | rfl
    · exact ⟨early_isSound, rfl, by decide⟩
    · exact ⟨late_isSound, rfl, by decide⟩
    · exact ⟨later_isSound, rfl, by decide⟩
  have read := @Engine.activeAmong_beginning noon rules [ticket]
    (fun rule member => (each rule member).1) (fun rule member => (each rule member).2.1)
    (fun rule member => (each rule member).2.2) (all.sublist (some_.filterMap _))
  rw [kept] at read
  exact read

/-- A turn in this world reads these rules and the ticket. -/
theorem readings_world {rules : List Rule} (some_ : rules.Sublist [early, late, later]) :
    ((turn (world rules)).readings engine.desk).1 = .ok (rules, [ticket]) := by
  have listed : Tickets.Shelf.listOpen Vocabulary.standard.closedStatuses none [ticket] =
      [ticket] := by
    have isOpen : [ticket].filter (Tickets.Shelf.isOpen Vocabulary.standard.closedStatuses) =
        [ticket] := by decide
    simp only [Tickets.Shelf.listOpen, isOpen, List.mergeSort_singleton]
  have read := @Engine.readings_in_memory engine rfl (turn (world rules))
    (isReady_world rules).calm rules (active_world some_)
  exact read.trans (congrArg (fun tickets => Except.ok (rules, tickets)) listed)

end Sample
end Triage
