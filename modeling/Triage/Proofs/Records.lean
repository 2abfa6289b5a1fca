import Mathlib.Data.List.Flatten
import Triage.Proofs.Explaining

namespace Triage

/-!
# What a turn records

The executions of a turn on a ticket can be read off the rules that held on the ticket as it was
fetched.  An action that leads its aspect was applied, or skipped where its target was in place; any
other action on the aspect was skipped in favour of the leader.  And whatever leads and was not in
place was applied, if the turn has worked on the ticket at all.
-/

open Executor (Course Entry entryOf entryOfSuperseded Accounts Heading actionsUnder pending settled)

namespace Cycle.Turn

variable {S : Type}

/-- The executions that a turn hands to the trail. -/
def executions (turn : Turn S) (base : Desk S) : List Execution :=
  (turn.done base).flatMap Done.executions

end Cycle.Turn

namespace Executor

variable {ticket : Ticket} {plan : Plan} {course : Course} {entry : Entry} {aspect : Aspect}

/-- On a ticket that is read and written without fail, changes are made or in place. -/
theorem Course.IsOn.mem_changes (isOn : course.IsOn ticket plan.mutations)
    (member : entry ∈ course.changes plan.mutations) : Exists fun planned =>
      planned ∈ plan.mutations ∧ entry.rule = planned.rule ∧ entry.action = planned.action ∧
        entry.winnerId = none ∧
        entry.outcome =
          if Rule.isInPlace ticket planned.action then .skippedDuplicate else .applied := by
  have skipped (inside : entry ∈ (settled ticket plan.mutations).map
      (entryOf .skippedDuplicate none)) : Exists fun planned =>
        planned ∈ plan.mutations ∧ entry.rule = planned.rule ∧ entry.action = planned.action ∧
          entry.winnerId = none ∧
          entry.outcome =
            if Rule.isInPlace ticket planned.action then .skippedDuplicate else .applied := by
    rcases action_of_entryOf inside with ⟨planned, source, action, rule, outcome, winner⟩
    rcases List.mem_filter.mp source with ⟨known, inPlace⟩
    exact ⟨planned, known, rule, action, winner, by rw [outcome, if_pos inPlace]⟩
  rcases isOn with ⟨_, rfl | rfl⟩ | ⟨_, rfl⟩
  · cases member
  · exact skipped member
  · rcases List.mem_append.mp member with before | made
    · exact skipped before
    · rcases action_of_entryOf made with ⟨planned, source, action, rule, outcome, winner⟩
      rcases mem_pending.mp source with ⟨known, absent⟩
      exact ⟨planned, known, rule, action, winner, by rw [outcome, absent]; rfl⟩

/-- What is said about an aspect is about a change or about an action that lost. -/
theorem Course.IsOn.mem_entries (isOn : course.IsOn ticket plan.mutations)
    (sound : plan.IsSound) (member : entry ∈ course.entries plan)
    (acts : entry.action.aspect? = some aspect) :
    (Exists fun planned => planned ∈ plan.mutations ∧ entry.rule = planned.rule ∧
      entry.action = planned.action ∧ entry.winnerId = none ∧
      entry.outcome =
        if Rule.isInPlace ticket planned.action then .skippedDuplicate else .applied) ∨
    Exists fun lost => lost ∈ plan.superseded ∧ entry = entryOfSuperseded lost := by
  rcases List.mem_append.mp member with first | sent
  · rcases List.mem_append.mp first with change | lost
    · exact Or.inl (isOn.mem_changes change)
    · rcases List.mem_map.mp lost with ⟨superseded, inside, rfl⟩
      exact Or.inr ⟨superseded, inside, rfl⟩
  · rcases action_of_entryOf sent with ⟨planned, inside, action, _⟩
    rw [action, (sound.notifications planned inside).2] at acts
    cases acts

end Executor

namespace Engine

variable {S : Type} {engine : Engine} {part : Part S World} {store : Tickets.Store S}
  {turn : Cycle.Turn S} {rules : List Rule} {tickets : List Ticket} {pieces : List Piece}
  {report : Report}

/-- What a turn adds to the trail are executions of it, all of them where none was lost. -/
theorem Hampers.grew (hampers : engine.Hampers part store) (lawful : part.IsLawful)
    (turn : Cycle.Turn S) (ready : engine.IsReady (part.get turn.state)) :
    Exists fun appended =>
      Trail.Grew (part.get turn.state).trailRows
        (part.get (turn.after (engine.deskIn part store))).trailRows appended ∧
      appended.Sublist (turn.executions (engine.deskIn part store)) ∧
      forall report, (turn.outcome (engine.deskIn part store)).1 = .ok report ->
        report.auditFailures = 0 -> appended = turn.executions (engine.deskIn part store) := by
  cases read : (turn.readings (engine.deskIn part store)).1 with
  | error failure =>
      rcases hampers.aborts lawful turn ready read with ⟨alike, idle, _⟩
      have none_ : turn.executions (engine.deskIn part store) = [] := by
        rw [Cycle.Turn.executions, idle]
        rfl
      refine ⟨[], ?_, List.nil_sublist _, fun _ _ _ => none_.symm⟩
      rw [(alike ready.calm).2.2.2.1]
      exact Trail.Grew.refl _
  | ok inputs =>
      rcases hampers.passes lawful turn ready read with ⟨pieces, report, passes⟩
      have executions : turn.executions (engine.deskIn part store) =
          pieces.flatMap fun piece => piece.done.executions := by
        rw [Cycle.Turn.executions, passes.done_eq, List.flatMap_map]
      refine ⟨_, (passes.chain.spec ready).2.2.2, ?_, ?_⟩
      · rw [executions]
        refine List.Sublist.flatMap_right pieces fun piece member => ?_
        rcases passes.chain.did member with ⟨_, _, did⟩
        exact did.handles.some
      · intro other answered complete
        have same : report = other := Except.ok.inj (passes.answered.symm.trans answered)
        rw [executions]
        refine List.flatMap_congr fun piece member => ?_
        rcases passes.chain.did member with ⟨_, _, did⟩
        exact did.handles.all (passes.unfailing (same ▸ complete) piece member)

namespace Passes

theorem mem_executions (passes : engine.Passes part store turn rules tickets pieces report)
    {execution : Execution} : execution ∈ turn.executions (engine.deskIn part store) ↔
      Exists fun piece => piece ∈ pieces ∧ execution ∈ piece.done.executions := by
  rw [Cycle.Turn.executions, passes.done_eq, List.mem_flatMap]
  constructor
  · rintro ⟨done, member, inside⟩
    rcases List.mem_map.mp member with ⟨piece, known, rfl⟩
    exact ⟨piece, known, inside⟩
  · rintro ⟨piece, member, inside⟩
    exact ⟨piece.done, List.mem_map_of_mem member, inside⟩

theorem accounts (passes : engine.Passes part store turn rules tickets pieces report)
    {piece : Piece} (member : piece ∈ pieces) :
    piece.plan.IsSound ∧ Accounts piece.job.ticket.id (part.get turn.state).clock.instant
      (some (turn.cycleId (engine.deskIn part store))) (piece.course.entries piece.plan)
      piece.done.executions := by
  rcases passes.chain.did member with ⟨_, _, did⟩
  exact ⟨did.sound, did.handles.accounts⟩

/-- What was recorded about a ticket was recorded by the piece of work on it. -/
theorem exists_of_execution (passes : engine.Passes part store turn rules tickets pieces report)
    {execution : Execution} (member : execution ∈ turn.executions (engine.deskIn part store))
    {ticket : Ticket}
    (held : engine.held (part.get turn.state) execution.ticketId = .ok (some ticket)) :
    Exists fun piece => piece ∈ pieces ∧ piece.job.ticket = ticket ∧
      execution ∈ piece.done.executions := by
  rcases passes.mem_executions.mp member with ⟨piece, inside, recorded⟩
  refine ⟨piece, inside, ?_, recorded⟩
  have about := ((passes.accounts inside).2.about execution recorded).1
  exact passes.ticket_eq inside (about ▸ held)

variable (distinct : (rules.map Rule.id).Nodup)

include distinct

/-- What a turn records of an action on an aspect. -/
theorem recorded (passes : engine.Passes part store turn rules tickets pieces report)
    (ready : engine.IsReady (part.get turn.state)) {execution : Execution}
    (member : execution ∈ turn.executions (engine.deskIn part store))
    (serves : engine.Serves part store execution.ticketId) {ticket : Ticket}
    (held : engine.held (part.get turn.state) execution.ticketId = .ok (some ticket))
    {action : Action} (inside : action ∈ execution.actions) {aspect : Aspect}
    (acts : action.aspect? = some aspect) :
    (Exists fun rule => rule.id = execution.ruleId ∧ execution.supersededBy = none ∧
      Rule.Leads (Rule.holdingOn engine.scale rules ticket (part.get turn.state).clock.instant)
        aspect rule action ∧
      execution.outcome = if ticket.reading aspect.toAttribute = action.target then
        .skippedDuplicate else .applied) ∨
    (execution.outcome = .skippedDuplicate ∧ Exists fun rule => rule.id = execution.ruleId ∧
      rule ∈ Rule.holdingOn engine.scale rules ticket (part.get turn.state).clock.instant ∧
      action ∈ rule.actions ∧ Exists fun winner => Exists fun lead =>
        execution.supersededBy = some winner.id ∧
        Rule.Leads (Rule.holdingOn engine.scale rules ticket (part.get turn.state).clock.instant)
          aspect winner lead) := by
  rcases passes.exists_of_execution member held with ⟨piece, known, rfl, source⟩
  rcases passes.accounts known with ⟨sound, accounts⟩
  rw [(accounts.about execution source).1] at serves
  have isOn := passes.isOn ready known serves
  have plan := passes.plan_eq known
  rw [accounts.actions execution source] at inside
  rcases Executor.mem_actionsUnder.mp inside with ⟨entry, listed, heading, same⟩
  have ruleId : entry.rule.id = execution.ruleId := congrArg Heading.ruleId heading
  have outcome : entry.outcome = execution.outcome := congrArg Heading.outcome heading
  have winnerId : entry.winnerId = execution.supersededBy := congrArg Heading.winnerId heading
  rw [<- same] at acts
  rcases isOn.mem_entries sound listed acts with
    ⟨planned, change, rule, equal, nobody, became⟩ | ⟨lost, superseded, rfl⟩
  · rw [equal] at same acts
    rw [plan] at change
    rcases (Plan.mem_mutations distinct).mp change with ⟨_, other, leads⟩
    have one : other = aspect := Option.some.inj (leads.acts.symm.trans acts)
    subst one
    refine Or.inl ⟨planned.rule, by rw [<- rule, ruleId], by rw [<- winnerId, nobody],
      same ▸ leads, ?_⟩
    rw [<- outcome, became, <- same, Rule.isInPlace, acts]
    by_cases inPlace : piece.job.ticket.reading other.toAttribute = planned.action.target
    · rw [if_pos inPlace, if_pos (beq_iff_eq.mpr inPlace)]
    · rw [if_neg inPlace, if_neg fun equal => inPlace (beq_iff_eq.mp equal)]
  · rw [plan] at superseded
    rcases Plan.of_mem_superseded distinct superseded with
      ⟨holds, _, taken, other, winner, on, leads, named⟩
    have one : other = aspect := Option.some.inj (on.symm.trans acts)
    subst one
    exact Or.inr ⟨outcome.symm, lost.rule, ruleId, holds, same ▸ taken, winner.rule,
      winner.action, by rw [<- winnerId, <- named]; rfl, leads⟩

/-- What leads and is not in place is recorded as applied. -/
theorem exists_applied (passes : engine.Passes part store turn rules tickets pieces report)
    (ready : engine.IsReady (part.get turn.state)) {piece : Piece} (member : piece ∈ pieces)
    (serves : engine.Serves part store piece.job.ticket.id) {rule : Rule} {action : Action}
    {aspect : Aspect}
    (leads : Rule.Leads (Rule.holdingOn engine.scale rules piece.job.ticket
      (part.get turn.state).clock.instant) aspect rule action)
    (different : piece.job.ticket.reading aspect.toAttribute ≠ action.target) :
    Exists fun execution => execution ∈ turn.executions (engine.deskIn part store) ∧
      execution.ticketId = piece.job.ticket.id ∧ execution.ruleId = rule.id ∧
      execution.outcome = .applied ∧ action ∈ execution.actions := by
  have missing : ⟨rule, action⟩ ∈ pending piece.job.ticket piece.plan.mutations := by
    rw [passes.plan_eq member]
    rcases Plan.inPlace_or_pending distinct leads with inPlace | missing
    · exact False.elim (different inPlace)
    · exact missing
  rcases passes.isOn ready member serves with ⟨none_, _⟩ | ⟨_, wrote⟩
  · rw [none_] at missing
    cases missing
  · have listed : entryOf .applied none ⟨rule, action⟩ ∈ piece.course.entries piece.plan := by
      rw [wrote]
      refine List.mem_append_left _ (List.mem_append_left _ (List.mem_append_right _ ?_))
      exact List.mem_map_of_mem missing
    rcases (passes.accounts member).2.exists_of_entry listed with
      ⟨execution, source, about, named, outcome, _, inside⟩
    exact ⟨execution, passes.mem_executions.mpr ⟨piece, member, source⟩, about, named, outcome,
      inside⟩

/-- What a rule that fires has lost to a leader is recorded as skipped in favour of the leader. -/
theorem exists_superseded (passes : engine.Passes part store turn rules tickets pieces report)
    {piece : Piece} (member : piece ∈ pieces) {rule winner : Rule} {action lead : Action}
    {aspect : Aspect}
    (leads : Rule.Leads (Rule.holdingOn engine.scale rules piece.job.ticket
      (part.get turn.state).clock.instant) aspect winner lead)
    (fires : rule ∈ (Matching.of engine.scale rules piece.job.ticket
      (part.get turn.state).clock.instant).firing)
    (inside : action ∈ rule.actions) (acts : action.aspect? = some aspect)
    (other : rule ≠ winner ∨ action ≠ lead) :
    Exists fun execution => execution ∈ turn.executions (engine.deskIn part store) ∧
      execution.ticketId = piece.job.ticket.id ∧ execution.ruleId = rule.id ∧
      execution.outcome = .skippedDuplicate ∧ execution.supersededBy = some winner.id ∧
      action ∈ execution.actions := by
  have listed : entryOfSuperseded ⟨rule, action, winner.id⟩ ∈
      piece.course.entries piece.plan := by
    refine List.mem_append_left _ (List.mem_append_right _ (List.mem_map_of_mem ?_))
    rw [passes.plan_eq member]
    exact Plan.mem_superseded_of_leads distinct leads fires inside acts other
  rcases (passes.accounts member).2.exists_of_entry listed with
    ⟨execution, source, about, named, outcome, superseded, taken⟩
  exact ⟨execution, passes.mem_executions.mpr ⟨piece, member, source⟩, about, named, outcome,
    superseded, taken⟩

end Passes
end Engine
end Triage
