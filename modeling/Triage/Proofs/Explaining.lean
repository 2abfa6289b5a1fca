import Triage.Proofs.Settling

namespace Triage

/-!
# What executions say about tickets

An execution that was applied to a ticket covers the aspects that its actions are about.  A job
covers an aspect in exactly one case: it has written the ticket, and set that aspect.  So what was
recorded of a job explains what the job has done, and what was recorded of many jobs explains what
they have done together.
-/

open Executor (Course Entry entryOf entryOfSuperseded Accounts Heading actionsUnder pending)

namespace Execution

/-- The actions of an execution on an aspect. -/
def actionsOn (execution : Execution) (aspect : Aspect) : List Action :=
  execution.actions.filter fun action => action.aspect? == some aspect

/-- Whether an execution was applied to a ticket with an action on an aspect. -/
def covers (ticketId : String) (aspect : Aspect) (execution : Execution) : Bool :=
  execution.outcome == .applied && execution.ticketId == ticketId &&
    !(execution.actionsOn aspect).isEmpty

end Execution

namespace Trail

/-- The most recent one of executions that covers an aspect of a ticket. -/
def latest (ticketId : String) (aspect : Aspect) (executions : List Execution) :
    Option Execution := executions.reverse.find? (Execution.covers ticketId aspect)

variable {ticketId : String} {aspect : Aspect} {executions : List Execution}

theorem latest_append (earlier later : List Execution) :
    latest ticketId aspect (earlier ++ later) =
      (latest ticketId aspect later).or (latest ticketId aspect earlier) := by
  rw [latest, List.reverse_append, List.find?_append]
  rfl

theorem latest_eq_none (none_ : forall execution, execution ∈ executions ->
    execution.covers ticketId aspect = false) : latest ticketId aspect executions = none := by
  rw [latest, List.find?_eq_none]
  intro execution member covers
  rw [none_ execution (List.mem_reverse.mp member)] at covers
  cases covers

/-- Where some execution covers an aspect, the latest is one of those that do. -/
theorem latest_eq_some {execution : Execution} (member : execution ∈ executions)
    (covers : execution.covers ticketId aspect = true) :
    Exists fun other => latest ticketId aspect executions = some other ∧ other ∈ executions ∧
      other.covers ticketId aspect = true := by
  cases found : latest ticketId aspect executions with
  | none =>
      rw [latest, List.find?_eq_none] at found
      exact False.elim (found execution (List.mem_reverse.mpr member) covers)
  | some other =>
      exact ⟨other, rfl, List.mem_reverse.mp (List.mem_of_find?_eq_some found),
        List.find?_some found⟩

end Trail

/-! ## Entries that were applied -/

namespace Executor

/-- Whether something was done about an aspect. -/
def Entry.isAppliedOn (aspect : Aspect) (entry : Entry) : Bool :=
  entry.outcome == .applied && entry.action.aspect? == some aspect

/-- What a course has written. -/
def Course.written (mutations : List Planned) : Course -> List Planned
  | .wrote live (.ok true) => pending live mutations
  | _ => []

variable {aspect : Aspect}

private theorem filter_entryOf {outcome : Outcome} {error : Option String}
    (planned : List Planned) :
    (planned.map (entryOf outcome error)).filter (Entry.isAppliedOn aspect) =
      if outcome = .applied then
        (planned.filter fun planned => planned.action.aspect? == some aspect).map
          (entryOf outcome error)
      else [] := by
  rw [List.filter_map]
  by_cases applied : outcome = .applied
  · rw [if_pos applied]
    congr 2
    funext planned
    simp only [Function.comp_apply, Entry.isAppliedOn, entryOf, applied, beq_self_eq_true,
      Bool.true_and]
  · rw [if_neg applied, List.map_eq_nil_iff, List.filter_eq_nil_iff]
    intro planned _ counts
    rcases Bool.and_eq_true_iff.mp counts with ⟨same, _⟩
    exact applied (beq_iff_eq.mp same)

private theorem filter_changes (mutations : List Planned) (course : Course) :
    (course.changes mutations).filter (Entry.isAppliedOn aspect) =
      ((course.written mutations).filter fun planned =>
        planned.action.aspect? == some aspect).map (entryOf .applied none) := by
  rcases course with _ | fault | live | ⟨live, fault | written⟩
  · rfl
  · exact filter_entryOf mutations
  · exact filter_entryOf _
  · exact filter_entryOf mutations
  · cases written with
    | true =>
        rw [Course.changes, List.filter_append, filter_entryOf, filter_entryOf, if_pos rfl]
        rfl
    | false =>
        rw [Course.changes, List.filter_append, filter_entryOf, filter_entryOf]
        rfl

/-- What was done about an aspect is what was written of it. -/
theorem filter_entries {plan : Plan} (sound : plan.IsSound) (course : Course) :
    (course.entries plan).filter (Entry.isAppliedOn aspect) =
      ((course.written plan.mutations).filter fun planned =>
        planned.action.aspect? == some aspect).map (entryOf .applied none) := by
  have lost : (plan.superseded.map entryOfSuperseded).filter (Entry.isAppliedOn aspect) = [] := by
    rw [List.filter_eq_nil_iff]
    intro entry member counts
    rcases List.mem_map.mp member with ⟨superseded, _, rfl⟩
    cases counts
  have sent : (plan.notifications.map (entryOf .applied none)).filter
      (Entry.isAppliedOn aspect) = [] := by
    rw [List.filter_eq_nil_iff]
    intro entry member counts
    rcases action_of_entryOf member with ⟨planned, inside, action, _⟩
    rw [Entry.isAppliedOn, action, (sound.notifications planned inside).2, Bool.and_eq_true] at counts
    cases counts.2
  rw [Course.entries, List.filter_append, List.filter_append, lost, sent, filter_changes,
    List.append_nil, List.append_nil]

/-- Among changes of different aspects, an aspect has one. -/
theorem filter_aspect {mutations : List Planned} {planned : Planned}
    (once : (mutations.map fun planned => planned.action.aspect?).Nodup)
    (member : planned ∈ mutations) (acts : planned.action.aspect? = some aspect) :
    (mutations.filter fun planned => planned.action.aspect? == some aspect) = [planned] := by
  induction mutations with
  | nil => cases member
  | cons first rest inductionHypothesis =>
      rw [List.map_cons, List.nodup_cons] at once
      rcases List.mem_cons.mp member with rfl | behind
      · rw [List.filter_cons, if_pos (beq_iff_eq.mpr acts)]
        congr 1
        rw [List.filter_eq_nil_iff]
        intro other inside same
        apply once.1
        rw [acts, <- beq_iff_eq.mp same]
        exact List.mem_map_of_mem inside
      · have different : ¬(first.action.aspect? == some aspect) = true := by
          intro same
          apply once.1
          rw [beq_iff_eq.mp same, <- acts]
          exact List.mem_map_of_mem behind
        rw [List.filter_cons, if_neg different, inductionHypothesis once.2 behind]

namespace Accounts

variable {ticketId : String} {matchedAt : Instant} {cycleId : Option String}
  {entries : List Entry} {executions : List Execution}

/-- The actions of an applied execution on an aspect are from the entries that were applied on it. -/
theorem actionsOn (accounts : Accounts ticketId matchedAt cycleId entries executions)
    {execution : Execution} (member : execution ∈ executions)
    (applied : execution.outcome = .applied) :
    execution.actionsOn aspect =
      actionsUnder ⟨execution.ruleId, execution.outcome, execution.supersededBy⟩
        (entries.filter (Entry.isAppliedOn aspect)) := by
  rw [Execution.actionsOn, accounts.actions execution member, actionsUnder, actionsUnder,
    List.filter_map, List.filter_filter, List.filter_filter]
  congr 2
  funext entry
  simp only [Function.comp_apply, Entry.isAppliedOn]
  cases same : entry.heading == (⟨execution.ruleId, execution.outcome, execution.supersededBy⟩ :
    Heading) with
  | false => rw [Bool.and_false, Bool.false_and]
  | true =>
      have outcome : entry.outcome = .applied :=
        (congrArg Heading.outcome (beq_iff_eq.mp same)).trans applied
      rw [outcome, beq_self_eq_true, Bool.true_and, Bool.and_true, Bool.true_and]

/-- Where nothing was done about an aspect, no execution covers it. -/
theorem covers_eq_false (accounts : Accounts ticketId matchedAt cycleId entries executions)
    {execution : Execution} (member : execution ∈ executions) {id : String}
    (nothing : id = ticketId -> entries.filter (Entry.isAppliedOn aspect) = []) :
    execution.covers id aspect = false := by
  rw [Bool.eq_false_iff]
  intro covers
  simp only [Execution.covers, Bool.and_eq_true, beq_iff_eq, Bool.not_eq_true',
    List.isEmpty_eq_false_iff] at covers
  rcases covers with ⟨⟨applied, about⟩, some_⟩
  apply some_
  rw [accounts.actionsOn member applied,
    nothing (about.symm.trans (accounts.about execution member).1)]
  rfl

/-- Where one thing was done about an aspect, the executions that cover it have its action. -/
theorem actionsOn_of_covers (accounts : Accounts ticketId matchedAt cycleId entries executions)
    {execution : Execution} (member : execution ∈ executions) {entry : Entry}
    (one : entries.filter (Entry.isAppliedOn aspect) = [entry])
    (covers : execution.covers ticketId aspect = true) :
    execution.actionsOn aspect = [entry.action] := by
  simp only [Execution.covers, Bool.and_eq_true, beq_iff_eq, Bool.not_eq_true',
    List.isEmpty_eq_false_iff] at covers
  rcases covers with ⟨⟨applied, _⟩, some_⟩
  rw [accounts.actionsOn member applied, one, Executor.actionsUnder_singleton] at some_ ⊢
  split at some_
  next same => rw [if_pos same]
  next => exact False.elim (some_ rfl)

/-- Where something was done about an aspect, some execution covers it. -/
theorem exists_covers (accounts : Accounts ticketId matchedAt cycleId entries executions)
    {entry : Entry} (member : entry ∈ entries) (applied : entry.isAppliedOn aspect = true) :
    Exists fun execution => execution ∈ executions ∧ execution.ruleId = entry.rule.id ∧
      execution.covers ticketId aspect = true := by
  rcases accounts.every entry member with ⟨execution, inside, same⟩
  rcases Bool.and_eq_true_iff.mp applied with ⟨outcome, acts⟩
  have done : execution.outcome = .applied :=
    (congrArg Heading.outcome same).trans (beq_iff_eq.mp outcome)
  refine ⟨execution, inside, congrArg Heading.ruleId same, ?_⟩
  have action : entry.action ∈ execution.actionsOn aspect := by
    rw [Execution.actionsOn, accounts.actions execution inside]
    exact List.mem_filter.mpr ⟨Executor.mem_actionsUnder.mpr ⟨entry, member, same.symm, rfl⟩, acts⟩
  simp only [Execution.covers, done, (accounts.about execution inside).1, beq_self_eq_true,
    Bool.true_and, Bool.not_eq_true', List.isEmpty_eq_false_iff]
  exact List.ne_nil_of_mem action

end Accounts
end Executor

/-! ## Explanations -/

namespace Ticket

/--
What a ticket became is what executions say: an aspect that one of them covers was set by the most
recent of these, and every other aspect is as it was.
-/
def Explained (ticketId : String) (executions : List Execution) (before after : Ticket) : Prop :=
  forall aspect : Aspect,
    match Trail.latest ticketId aspect executions with
    | some execution => Exists fun action => execution.actionsOn aspect = [action] ∧
        after.stored aspect.toAttribute = some action.target
    | none => after.stored aspect.toAttribute = before.stored aspect.toAttribute

variable {ticketId : String} {executions earlier later : List Execution}
  {first second third : Ticket}

theorem Explained.of_latest_eq_none
    (nothing : forall aspect, Trail.latest ticketId aspect executions = none) (ticket : Ticket) :
    Explained ticketId executions ticket ticket := by
  intro aspect
  rw [nothing aspect]

theorem Explained.trans (one : Explained ticketId earlier first second)
    (two : Explained ticketId later second third) :
    Explained ticketId (earlier ++ later) first third := by
  intro aspect
  have before := one aspect
  have after := two aspect
  rw [Trail.latest_append]
  cases found : Trail.latest ticketId aspect later with
  | some execution =>
      rw [found] at after
      exact after
  | none =>
      rw [found] at after
      simp only at after
      simp only [Option.none_or, after]
      exact before

end Ticket

namespace Engine

variable {S : Type} {engine : Engine} {part : Part S World} {store : Tickets.Store S}

/-- From one world to the next, executions explain what became of each ticket. -/
structure Explains (engine : Engine) (executions : List Execution) (before after : World) :
    Prop where
  kept : forall id ticket, engine.held before id = .ok (some ticket) -> Exists fun later =>
    engine.held after id = .ok (some later) ∧ Ticket.Explained id executions ticket later
  unknown : forall id, (forall ticket, engine.held before id ≠ .ok (some ticket)) ->
    engine.held after id = engine.held before id

namespace Explains

variable {earlier later : List Execution} {before between after : World}

theorem trans (one : engine.Explains earlier before between)
    (two : engine.Explains later between after) :
    engine.Explains (earlier ++ later) before after := by
  constructor
  · intro id ticket held
    rcases one.kept id ticket held with ⟨second, known, first⟩
    rcases two.kept id second known with ⟨third, final, rest⟩
    exact ⟨third, final, first.trans rest⟩
  · intro id absent
    have same := one.unknown id absent
    rw [two.unknown id fun ticket held => absent ticket (same.symm.trans held), same]

/-- Where no ticket changed, executions explain this as long as they cover nothing. -/
theorem of_held (same : forall id, engine.held after id = engine.held before id)
    {executions : List Execution}
    (nothing : forall id aspect, Trail.latest id aspect executions = none) :
    engine.Explains executions before after := by
  constructor
  · intro id ticket held
    exact ⟨ticket, (same id).trans held, .of_latest_eq_none (nothing id) ticket⟩
  · intro id _
    exact same id

theorem of_stock (same : after.stock = before.stock) : engine.Explains [] before after :=
  of_held (fun id => held_of_stock same id) fun _ _ => rfl

end Explains

section Jobs

variable {ticketId : String} {plan : Plan} {matchedAt : Instant} {cycleId : Option String}
  {before after : World} {done : Cycle.Done} {course : Course} {appended : List Execution}

private theorem explained_written (sound : plan.IsSound) {live : Ticket} {executions : List Execution}
    (accounts : Accounts ticketId matchedAt cycleId
      ((Course.wrote live (.ok true)).entries plan) executions) (now : Stamp) :
    Ticket.Explained ticketId executions live
      (written now (Plan.updates (pending live plan.mutations)) live) := by
  intro aspect
  have entries := @Executor.filter_entries aspect plan sound (.wrote live (.ok true))
  rw [Course.written] at entries
  by_cases missing : Exists fun planned => planned ∈ pending live plan.mutations ∧
      planned.action.aspect? = some aspect
  · rcases missing with ⟨planned, member, acts⟩
    have once : ((pending live plan.mutations).map fun planned => planned.action.aspect?).Nodup :=
      sound.once.sublist (List.filter_sublist.map _)
    rw [Executor.filter_aspect once member acts, List.map_singleton] at entries
    have inside : entryOf .applied none planned ∈
        ((Course.wrote live (.ok true)).entries plan).filter (Entry.isAppliedOn aspect) := by
      rw [entries]
      exact List.mem_singleton_self _
    rcases List.mem_filter.mp inside with ⟨known, applied⟩
    rcases accounts.exists_covers known applied with ⟨_, some_, _, covers⟩
    rcases Trail.latest_eq_some some_ covers with ⟨last, found, recorded, covering⟩
    rw [found]
    refine ⟨planned.action, accounts.actionsOn_of_covers recorded entries covering, ?_⟩
    exact Plan.stored_written_of_mem (Plan.once_updates sound)
      (Plan.mem_updates.mpr ⟨planned, member, acts, rfl⟩)
  · have none_ : ((pending live plan.mutations).filter fun planned =>
        planned.action.aspect? == some aspect) = [] := by
      rw [List.filter_eq_nil_iff]
      intro planned member acts
      exact missing ⟨planned, member, beq_iff_eq.mp acts⟩
    rw [none_, List.map_nil] at entries
    rw [Trail.latest_eq_none fun execution member =>
      accounts.covers_eq_false member fun _ => entries]
    apply Plan.stored_written_of_not_mem
    intro value member same
    rcases Plan.mem_updates.mp member with ⟨planned, inside, acts, _⟩
    exact missing ⟨planned, inside, acts.trans (congrArg some same)⟩

/-- The executions of a job explain what the job has done. -/
theorem Handles.explains (sound : plan.IsSound)
    (handles : engine.Handles ticketId plan matchedAt cycleId before after done course appended) :
    engine.Explains done.executions before after := by
  have accounts := handles.accounts
  have elsewhere : forall id, id ≠ ticketId -> forall aspect,
      Trail.latest id aspect done.executions = none := by
    intro id other aspect
    exact Trail.latest_eq_none fun execution member =>
      accounts.covers_eq_false member fun same => False.elim (other same)
  have idle (none_ : course.result plan.mutations before.clock = none)
      (unwritten : course.written plan.mutations = []) :
      engine.Explains done.executions before after := by
    refine .of_held (fun id => ?_) fun id aspect => ?_
    · have held := handles.held id
      rw [none_] at held
      exact held
    · refine Trail.latest_eq_none fun execution member => accounts.covers_eq_false member ?_
      intro _
      rw [Executor.filter_entries sound course, unwritten]
      rfl
  rcases course with _ | fault | live | ⟨live, fault | took⟩
  · exact idle rfl rfl
  · exact idle rfl rfl
  · exact idle rfl rfl
  · exact idle rfl rfl
  · cases took with
    | false => exact idle rfl rfl
    | true =>
        have own := handles.read live rfl
        constructor
        · intro id ticket known
          by_cases same : id = ticketId
          · subst same
            have equal : live = ticket := by
              rw [own] at known
              exact Option.some.inj (Except.ok.inj known)
            subst equal
            exact ⟨_, (handles.held id).trans (if_pos rfl), explained_written sound accounts _⟩
          · refine ⟨ticket, ?_, .of_latest_eq_none (elsewhere id same) ticket⟩
            exact ((handles.held id).trans (if_neg same)).trans known
        · intro id absent
          have other : id ≠ ticketId := fun same => absent live (same ▸ own)
          exact (handles.held id).trans (if_neg other)

end Jobs

section Turns

variable {before after : World} {matchedAt : Instant} {cycleId : String}

/-- What a chain of jobs recorded explains what it has done, as long as all of it was recorded. -/
theorem Chain.explains {pieces : List Piece}
    (chain : engine.Chain part store matchedAt cycleId pieces before after)
    (ready : engine.IsReady before)
    (all : forall piece, piece ∈ pieces -> piece.done.auditFailures = 0) :
    engine.Explains (pieces.flatMap Piece.appended) before after := by
  induction chain with
  | nil alike => exact .of_stock (alike ready.calm).2.2.1
  | cons alike did _ inductionHypothesis =>
      have same := did.handles.all (all _ List.mem_cons_self)
      have first := did.handles.explains did.sound
      have rest := inductionHypothesis did.handles.ready
        fun piece member => all piece (List.mem_cons_of_mem _ member)
      have stock := (alike ready.calm).2.2.1
      rw [<- same] at first
      exact (Explains.of_stock stock).trans (first.trans rest)

/-- Where a report counts no executions as lost, no piece of work lost any. -/
theorem Passes.unfailing {turn : Cycle.Turn S} {rules : List Rule} {tickets : List Ticket}
    {pieces : List Piece} {report : Report}
    (passes : engine.Passes part store turn rules tickets pieces report)
    (complete : report.auditFailures = 0) :
    forall piece, piece ∈ pieces -> piece.done.auditFailures = 0 := by
  intro piece member
  have counted := passes.auditFailures_eq
  rw [complete] at counted
  have none_ : (pieces.map fun piece => piece.done.auditFailures).sum = 0 := by omega
  exact List.sum_eq_zero_iff_forall_eq_nat.mp none_ _ (List.mem_map_of_mem member)

/-- Each turn keeps the world ready, and what it recorded explains what it has done. -/
theorem Hampers.explains (hampers : engine.Hampers part store) (lawful : part.IsLawful)
    (turn : Cycle.Turn S) (ready : engine.IsReady (part.get turn.state))
    (all : forall report, (turn.outcome (engine.deskIn part store)).1 = .ok report ->
      report.auditFailures = 0) :
    engine.IsReady (part.get (turn.after (engine.deskIn part store))) ∧
      Exists fun appended =>
        Trail.Grew (part.get turn.state).trailRows
          (part.get (turn.after (engine.deskIn part store))).trailRows appended ∧
        engine.Explains appended (part.get turn.state)
          (part.get (turn.after (engine.deskIn part store))) := by
  cases read : (turn.readings (engine.deskIn part store)).1 with
  | error failure =>
      rcases hampers.aborts lawful turn ready read with ⟨alike, _⟩
      rcases alike ready.calm with ⟨_, _, stock, trail, _⟩
      refine ⟨ready.alike alike, [], ?_, .of_stock stock⟩
      rw [trail]
      exact Trail.Grew.refl _
  | ok inputs =>
      rcases hampers.passes lawful turn ready read with ⟨pieces, report, passes⟩
      rcases passes.chain.spec ready with ⟨still, _, _, grew⟩
      exact ⟨still, _, grew,
        passes.chain.explains ready (passes.unfailing (all report passes.answered))⟩

end Turns
end Engine
end Triage
