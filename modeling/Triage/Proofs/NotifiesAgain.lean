import Triage.Proofs.Mail
import Triage.Proofs.Watch

namespace Triage

/-!
# Who notifies again

A rule that has everything it would set in place is silent, and its notifications are silent with
it.  On a ticket that was settled by the rules that hold, this leaves two kinds of rules that
notify again: those that only notify, and those that want something else than the leader of an
aspect.  The latter never get what they want as long as the leader holds, so that they fire, and
notify, in every turn.
-/

open Triage.Cycle (Turn)

namespace Rule

variable {rules : List Rule} {aspect : Aspect}

/-- Where some rule acts on an aspect, somebody leads on it. -/
theorem exists_leads {rule : Rule} {action : Action} (member : rule ∈ rules)
    (inside : action ∈ rule.actions) (acts : action.aspect? = some aspect) :
    Exists fun winner => Exists fun lead => Leads rules aspect winner lead := by
  rcases Option.isSome_iff_exists.mp
    (Plan.isSome_leader (mem_ordered.mpr member) inside acts) with ⟨winner, found⟩
  exact ⟨winner.rule, winner.action,
    (Plan.leads_of_leader (pairwise_ordered rules) found).congr fun _ => mem_ordered⟩

/-- The rule wants something else on some aspect than the leader of some rules. -/
def IsOverruled (holding : List Rule) (rule : Rule) : Prop :=
  Exists fun action => Exists fun aspect => action ∈ rule.actions ∧ action.aspect? = some aspect ∧
    Exists fun winner => Exists fun lead => Leads holding aspect winner lead ∧
      lead.target ≠ action.target

/-- On a settled ticket a rule that holds fires if it only notifies or is overruled. -/
theorem isSatisfied_eq_false_iff {ticket : Ticket} {holding : List Rule} {rule : Rule}
    (settled : ticket.IsSettledBy holding) (holds : rule ∈ holding) :
    rule.isSatisfied ticket = false ↔ rule.mutations = [] ∨ rule.IsOverruled holding := by
  constructor
  · intro unsatisfied
    by_cases none_ : rule.mutations = []
    · exact Or.inl none_
    · have some_ : (!rule.mutations.isEmpty) = true := by
        rw [Bool.not_eq_true', List.isEmpty_eq_false_iff]
        exact none_
      rw [isSatisfied, some_, Bool.true_and, List.all_eq_false] at unsatisfied
      rcases unsatisfied with ⟨action, member, missing⟩
      rcases List.mem_filter.mp member with ⟨inside, mutation⟩
      rcases Option.isSome_iff_exists.mp mutation with ⟨aspect, acts⟩
      rcases exists_leads holds inside acts with ⟨winner, lead, leads⟩
      refine Or.inr ⟨action, aspect, inside, acts, winner, lead, leads, fun same => missing ?_⟩
      have inPlace : (ticket.reading aspect.toAttribute == action.target) = true := by
        rw [settled aspect winner lead leads, same]
        exact beq_self_eq_true _
      rw [isInPlace, acts]
      exact inPlace
  · rintro (none_ | ⟨action, aspect, inside, acts, winner, lead, leads, other⟩)
    · rw [isSatisfied, none_]
      rfl
    · refine isSatisfied_eq_false inside acts ?_
      rw [settled aspect winner lead leads]
      exact other

end Rule

namespace Watch

variable {S : Type} {engine : Engine} {part : Part S World} {store : Tickets.Store S}
  {id : String} {watch : Watch S}

/-- The notifications that the rules of the turn plan on the ticket. -/
def notifications (engine : Engine) (part : Part S World) (watch : Watch S) : List Planned :=
  (Plan.onTicket engine.scale watch.rules watch.ticket
    (part.get watch.turn.state).clock.instant).notifications

/-- A turn sends what its rules plan. -/
theorem IsTrue.sends (isTrue : watch.IsTrue engine part id) (hampers : engine.Hampers part store)
    (lawful : part.IsLawful) : engine.Sends part store watch.turn watch.rules := by
  cases read : (watch.turn.readings (engine.deskIn part store)).1 with
  | error failure =>
      have readings : watch.turn.readings (engine.deskIn part store) =
          (.error failure, (watch.turn.readings (engine.deskIn part store)).2) :=
        Prod.ext read rfl
      rcases watch.turn.outcome_of_error _ readings with ⟨after, idle, _⟩
      refine ⟨[], ?_, idle ▸ .nil⟩
      rw [after, List.flatten_nil, List.append_nil]
      exact hampers.outbox_readings lawful watch.turn
  | ok inputs =>
      rcases inputs with ⟨rules, tickets⟩
      rcases hampers.passes lawful watch.turn isTrue.ready read with ⟨_, _, passes⟩
      have same : rules = watch.rules :=
        Except.ok.inj (passes.active.symm.trans isTrue.active)
      exact same ▸ hampers.sends lawful watch.turn isTrue.ready read

end Watch

namespace Sample

/-- The rules that want one priority each. -/
theorem pair : [late, later].Sublist [early, late, later] := List.sublist_cons_self _ _

/-- Whatever a notification is about, the standard template can be filled for it. -/
theorem isSome_message (rule : Rule) (ticketId : String) (ticket : Option Ticket) :
    (Executor.message engine.settings.notification.templateText rule ticketId ticket).isSome =
      true := by
  have standard : Template.parts engine.settings.notification.templateText.toList =
      ⟨[.literal "Rule '".toList, .slot ⟨"rule_name".toList, none, []⟩,
        .literal "' fired for ticket #".toList, .slot ⟨"ticket_id".toList, none, []⟩,
        .literal " (".toList, .slot ⟨"subject".toList, none, []⟩,
        .literal "): status=".toList, .slot ⟨"status".toList, none, []⟩,
        .literal ", priority=".toList, .slot ⟨"priority".toList, none, []⟩,
        .literal ", assignee=".toList, .slot ⟨"assignee".toList, none, []⟩, .literal []],
        none⟩ := by decide +kernel
  have fallback : Template.parts Executor.fallbackTemplate.toList =
      ⟨[.literal "Rule '".toList, .slot ⟨"rule_name".toList, none, []⟩,
        .literal "' fired for ticket #".toList, .slot ⟨"ticket_id".toList, none, []⟩,
        .literal []], none⟩ := by decide +kernel
  simp only [Executor.message, Template.fill, Template.depth, Template.fillWithin, standard,
    fallback]
  cases ticket <;> rfl

/--
The second turn with the rules that want one priority each: both hold again, the first of them has
its way, and the other one does not come to rest.
-/
theorem exists_sequel_of_pair :
    (Exists fun done => done ∈ (opening [late, later]).turn.done engine.desk ∧
      done.ticketId = ticket.id) ∧
    Exists fun again => Exists fun found => Exists fun winner => Exists fun rule =>
      (Watch.mk (sequel [late, later]) again found).IsTrue engine (Part.whole World) ticket.id ∧
      Rule.SameStakes
        ((Watch.mk (sequel [late, later]) again found).holding engine (Part.whole World))
        ((opening [late, later]).holding engine (Part.whole World)) ∧
      Rule.Leads ((Watch.mk (sequel [late, later]) again found).holding engine (Part.whole World))
        .priority winner ⟨.updatePriority, "Urgent"⟩ ∧
      rule ∈ (Watch.mk (sequel [late, later]) again found).holding engine (Part.whole World) ∧
      rule.unexecuted = later ∧ found.reading .priority ≠ "Medium" ∧
      Exists fun done => done ∈ (sequel [late, later]).done engine.desk ∧
        done.ticketId = ticket.id := by
  have atFirst : Rule.holdingOn engine.scale [late, later] ticket noon.instant = [late, later] :=
    holdingOn_status rfl
  have leads : Rule.Leads (Rule.holdingOn engine.scale [late, later] ticket noon.instant)
      .priority late ⟨.updatePriority, "Urgent"⟩ := atFirst ▸ Rule.Leads.of_pair rfl (by decide)
  rcases exists_sequel pair (List.ne_nil_of_mem
    (Matching.mem_firing.mpr ⟨leads.member, by decide⟩)) with
    ⟨worked, again, found, next, same, _, outcome⟩
  have isTrue := opening_isTrue pair
  have hampers := Engine.tickets_hampers engine
  have status : found.reading .status = "On Tech" :=
    outcome.unled .status fun rule action leads => not_leads_status pair leads
  have priority : found.reading .priority = "Urgent" := outcome.led .priority _ _ leads
  have missing : found.reading .priority ≠ "Medium" := priority ▸ by decide
  have holding : ((Watch.mk (sequel [late, later]) again found).holding engine
      (Part.whole World)).map Rule.unexecuted = [late, later].map Rule.unexecuted :=
    (Rule.holdingOn_unexecuted same found _).trans
      (congrArg (List.map Rule.unexecuted) (holdingOn_status status))
  have stakes : Rule.SameStakes
      ((Watch.mk (sequel [late, later]) again found).holding engine (Part.whole World))
      ((opening [late, later]).holding engine (Part.whole World)) :=
    .of_unexecuted (holding.trans (congrArg (List.map Rule.unexecuted) atFirst).symm)
  have atStart : Rule.Leads ((opening [late, later]).holding engine (Part.whole World)) .priority
      late ⟨.updatePriority, "Urgent"⟩ := leads
  rcases atStart.of_sameStakes stakes.symm with ⟨winner, _, again_⟩
  have still : later.unexecuted ∈ ((Watch.mk (sequel [late, later]) again found).holding engine
      (Part.whole World)).map Rule.unexecuted :=
    holding ▸ List.mem_cons_of_mem _ List.mem_cons_self
  rcases List.mem_map.mp still with ⟨rule, holds, unexecuted⟩
  have actions : rule.actions = later.actions := Rule.actions_of_unexecuted unexecuted
  have inside : ⟨.updatePriority, "Medium"⟩ ∈ rule.actions := actions ▸ List.mem_cons_self
  have stored : found.status = some "On Tech" := outcome.kept .status status
  have isOpen : Tickets.Shelf.isOpen Vocabulary.standard.closedStatuses found = true := by
    rw [Tickets.Shelf.isOpen, stored]
    decide
  have fires : rule ∈ (Matching.of engine.scale again found
      (sequel [late, later]).state.clock.instant).firing :=
    Matching.mem_firing.mpr ⟨holds, Rule.isSatisfied_eq_false inside rfl missing⟩
  have done := exists_done next (fun id other =>
    isTrue.held_of_none hampers Part.whole_isLawful (held_world other)) isOpen
    (List.ne_nil_of_mem fires)
  exact ⟨worked, again, found, winner, rule, next, stakes, again_, holds, unexecuted, missing,
    done⟩

end Sample

namespace Engine

variable {S : Type} {engine : Engine} {part : Part S World} {store : Tickets.Store S}

end Engine
end Triage
