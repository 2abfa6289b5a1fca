import Triage.Proofs.Watch

namespace Triage

/-!
# When an overruled action is applied after all

A rule that had its way on an aspect blocks later rules on it, but only for as long as it holds.
Nothing remembers that it won.  Where its own write makes its conditions fail, the next cycle does
not count it any more, and whoever it overruled may lead on the aspect and undo what it did.
-/

namespace Watch

variable {S : Type}

/-- The turn records an action of a rule on the ticket as applied. -/
def Applies (engine : Engine) (part : Part S World) (store : Tickets.Store S) (id : String)
    (watch : Watch S) (ruleId : String) (action : Action) : Prop :=
  Exists fun execution => execution ∈ watch.turn.executions (engine.deskIn part store) ∧
    execution.ticketId = id ∧ execution.ruleId = ruleId ∧ execution.outcome = .applied ∧
    action ∈ execution.actions

/-- The turn records an action of a rule on the ticket as skipped in favour of another rule. -/
def Overrules (engine : Engine) (part : Part S World) (store : Tickets.Store S) (id : String)
    (watch : Watch S) (winnerId ruleId : String) (action : Action) : Prop :=
  Exists fun execution => execution ∈ watch.turn.executions (engine.deskIn part store) ∧
    execution.ticketId = id ∧ execution.ruleId = ruleId ∧
    execution.outcome = .skippedDuplicate ∧ execution.supersededBy = some winnerId ∧
    action ∈ execution.actions

variable {engine : Engine} {part : Part S World} {store : Tickets.Store S} {id : String}
  {watch : Watch S} {ruleId winnerId : String} {action : Action} {aspect : Aspect}

/-- An action that is applied leads on its aspect, and the turn does the job on the ticket. -/
theorem IsTrue.leads_of_applies (isTrue : watch.IsTrue engine part id)
    (hampers : engine.Hampers part store) (lawful : part.IsLawful)
    (serves : engine.Serves part store id)
    (applies : watch.Applies engine part store id ruleId action)
    (acts : action.aspect? = some aspect) :
    (Exists fun done => done ∈ watch.turn.done (engine.deskIn part store) ∧ done.ticketId = id) ∧
      watch.ticket.reading aspect.toAttribute ≠ action.target ∧
      Exists fun rule => rule.id = ruleId ∧
        Rule.Leads (watch.holding engine part) aspect rule action := by
  rcases applies with ⟨execution, member, rfl, rfl, applied, inside⟩
  rcases isTrue.passes hampers lawful with ⟨_, idle⟩ | ⟨tickets, pieces, report, passes⟩
  · rw [Cycle.Turn.executions, idle] at member
    cases member
  · rcases passes.exists_of_execution member isTrue.held with ⟨piece, known, _, source⟩
    have about := ((passes.accounts known).2.about execution source).1
    rcases passes.chain.did known with ⟨_, _, did⟩
    refine ⟨⟨piece.done, passes.done_eq ▸ List.mem_map_of_mem known, did.named.trans about.symm⟩, ?_⟩
    rcases passes.recorded isTrue.distinct isTrue.ready member serves isTrue.held inside acts with
      ⟨rule, named, _, leads, became⟩ | ⟨skipped, _⟩
    · refine ⟨?_, rule, named, leads⟩
      intro inPlace
      rw [applied, if_pos inPlace] at became
      cases became
    · rw [applied] at skipped
      cases skipped

/-- An action that is overruled is that of a rule that holds, and the named rule leads. -/
theorem IsTrue.leads_of_overrules (isTrue : watch.IsTrue engine part id)
    (hampers : engine.Hampers part store) (lawful : part.IsLawful)
    (serves : engine.Serves part store id)
    (overrules : watch.Overrules engine part store id winnerId ruleId action)
    (acts : action.aspect? = some aspect) : Exists fun rule => rule.id = ruleId ∧
      rule ∈ watch.holding engine part ∧ action ∈ rule.actions ∧
      Exists fun winner => Exists fun lead => winner.id = winnerId ∧
        Rule.Leads (watch.holding engine part) aspect winner lead := by
  rcases overrules with ⟨execution, member, rfl, rfl, _, named, inside⟩
  rcases isTrue.passes hampers lawful with ⟨_, idle⟩ | ⟨tickets, pieces, report, passes⟩
  · rw [Cycle.Turn.executions, idle] at member
    cases member
  · rcases passes.recorded isTrue.distinct isTrue.ready member serves isTrue.held inside acts with
      ⟨_, _, nobody, _, _⟩ | ⟨_, rule, known, holds, taken, winner, lead, superseded, leads⟩
    · rw [nobody] at named
      cases named
    · exact ⟨rule, known, holds, taken, winner, lead,
        Option.some.inj (superseded.symm.trans named), leads⟩

/-- A turn that does the job on the ticket applies what leads and is not in place. -/
theorem IsTrue.applies_of_leads (isTrue : watch.IsTrue engine part id)
    (hampers : engine.Hampers part store) (lawful : part.IsLawful)
    (serves : engine.Serves part store id)
    (worked : Exists fun done => done ∈ watch.turn.done (engine.deskIn part store) ∧
      done.ticketId = id) {rule : Rule}
    (leads : Rule.Leads (watch.holding engine part) aspect rule action)
    (missing : watch.ticket.reading aspect.toAttribute ≠ action.target) :
    watch.Applies engine part store id rule.id action := by
  rcases worked with ⟨done, member, about⟩
  rcases isTrue.passes hampers lawful with ⟨_, idle⟩ | ⟨tickets, pieces, report, passes⟩
  · rw [idle] at member
    cases member
  · rcases passes.exists_of_done member with ⟨piece, inside, _, named⟩
    have same : piece.job.ticket.id = id := named.trans about
    have on : piece.job.ticket = watch.ticket := passes.ticket_eq inside (same ▸ isTrue.held)
    have leading : Rule.Leads (Rule.holdingOn engine.scale watch.rules piece.job.ticket
        (part.get watch.turn.state).clock.instant) aspect rule action := on ▸ leads
    rcases passes.exists_applied isTrue.distinct isTrue.ready inside (same ▸ serves) leading
      (on ▸ missing) with ⟨execution, recorded, ofTicket, ofRule, applied, taken⟩
    exact ⟨execution, recorded, ofTicket.trans same, ofRule, applied, taken⟩

/-- A turn that does the job on the ticket skips what another rule that fires wanted. -/
theorem IsTrue.overrules_of_leads (isTrue : watch.IsTrue engine part id)
    (hampers : engine.Hampers part store) (lawful : part.IsLawful)
    (worked : Exists fun done => done ∈ watch.turn.done (engine.deskIn part store) ∧
      done.ticketId = id) {rule winner : Rule} {lead : Action}
    (leads : Rule.Leads (watch.holding engine part) aspect winner lead)
    (fires : rule ∈ (Matching.of engine.scale watch.rules watch.ticket
      (part.get watch.turn.state).clock.instant).firing)
    (inside : action ∈ rule.actions) (acts : action.aspect? = some aspect)
    (other : rule ≠ winner) :
    watch.Overrules engine part store id winner.id rule.id action := by
  rcases worked with ⟨done, member, about⟩
  rcases isTrue.passes hampers lawful with ⟨_, idle⟩ | ⟨tickets, pieces, report, passes⟩
  · rw [idle] at member
    cases member
  · rcases passes.exists_of_done member with ⟨piece, known, _, named⟩
    have same : piece.job.ticket.id = id := named.trans about
    have on : piece.job.ticket = watch.ticket := passes.ticket_eq known (same ▸ isTrue.held)
    have leading : Rule.Leads (Rule.holdingOn engine.scale watch.rules piece.job.ticket
        (part.get watch.turn.state).clock.instant) aspect winner lead := on ▸ leads
    rcases passes.exists_superseded isTrue.distinct known leading (on ▸ fires) inside acts
      (Or.inl other) with ⟨execution, recorded, ofTicket, ofRule, skipped, superseded, taken⟩
    exact ⟨execution, recorded, ofTicket.trans same, ofRule, skipped, superseded, taken⟩

end Watch

namespace Engine

variable {S : Type} {engine : Engine} {part : Part S World} {store : Tickets.Store S}

end Engine
end Triage
