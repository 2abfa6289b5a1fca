import Triage.Proofs.Beginning

namespace Triage

/-!
# What a ticket settles at

A plan that is carried out on the ticket it was made for brings every aspect to the target of its
leader, and leaves alone the aspects on which nobody leads.  If that makes a difference, exactly the
differing aspects are written, together with the time; if not, the ticket stays as it is.

The executed changes are only those of rules that fire.  This is no loss: where a leader does not
fire, all it would set is in place already.
-/

open Executor (pending Course)

namespace Ticket

/-- A ticket settled from before to after, under the leaders of rules and at some time. -/
structure Settled (holding : List Rule) (now : Stamp) (before after : Ticket) : Prop where
  led : forall aspect rule action, Rule.Leads holding aspect rule action ->
    after.reading aspect.toAttribute = action.target
  unled : forall aspect, (forall rule action, ¬Rule.Leads holding aspect rule action) ->
    after.reading aspect.toAttribute = before.reading aspect.toAttribute
  kept : forall aspect : Aspect,
    after.reading aspect.toAttribute = before.reading aspect.toAttribute ->
      after.stored aspect.toAttribute = before.stored aspect.toAttribute
  written : forall aspect : Aspect,
    after.reading aspect.toAttribute ≠ before.reading aspect.toAttribute ->
      after.stored aspect.toAttribute = some (after.reading aspect.toAttribute)
  still : (forall aspect : Aspect,
    after.reading aspect.toAttribute = before.reading aspect.toAttribute) -> after = before
  moved : (Exists fun aspect : Aspect =>
    after.reading aspect.toAttribute ≠ before.reading aspect.toAttribute) -> after.updatedAt = now
  frame_eq : after.frame = before.frame

end Ticket

namespace Plan

/-- A ticket after the missing changes of a plan were made at some time, if any were missing. -/
def carriedOut (plan : Plan) (now : Stamp) (ticket : Ticket) : Ticket :=
  if pending ticket plan.mutations = [] then ticket
  else Engine.written now (updates (pending ticket plan.mutations)) ticket

section Written

variable {ticket : Ticket} {now : Stamp} {values : List (Aspect × String)}

theorem stored_written_of_not_mem {aspect : Aspect}
    (absent : forall value, value ∈ values -> value.1 ≠ aspect) :
    (Engine.written now values ticket).stored aspect.toAttribute =
      ticket.stored aspect.toAttribute := by
  have kept : (ticket.setAll (values.map fun value => (value.1, some value.2))).stored
      aspect.toAttribute = ticket.stored aspect.toAttribute := by
    apply Ticket.stored_setAll_of_not_mem
    intro value member
    rcases List.mem_map.mp member with ⟨update, inside, rfl⟩
    exact absent update inside
  cases aspect <;> exact kept

theorem stored_written_of_mem (once : (values.map Prod.fst).Nodup) {aspect : Aspect}
    {content : String} (member : (aspect, content) ∈ values) :
    (Engine.written now values ticket).stored aspect.toAttribute = some content := by
  have firsts : (values.map fun value => (value.1, some value.2)).map Prod.fst =
      values.map Prod.fst := by
    rw [List.map_map]
    rfl
  have put : (ticket.setAll (values.map fun value => (value.1, some value.2))).stored
      aspect.toAttribute = some content :=
    Ticket.stored_setAll_of_mem (firsts.symm ▸ once)
      (List.mem_map.mpr ⟨(aspect, content), member, rfl⟩)
  cases aspect <;> exact put

theorem frame_written : (Engine.written now values ticket).frame = ticket.frame := by
  have kept := @Ticket.frame_setAll ticket (values.map fun value => (value.1, some value.2))
  exact kept

end Written

variable {plan : Plan} {ticket : Ticket} {now : Stamp}

/-- Missing changes set each aspect at most once. -/
theorem once_updates (sound : plan.IsSound) :
    ((updates (pending ticket plan.mutations)).map Prod.fst).Nodup := by
  have aspects : (updates (pending ticket plan.mutations)).map Prod.fst =
      ((pending ticket plan.mutations).map fun planned => planned.action.aspect?).filterMap id := by
    rw [updates, List.map_filterMap, List.filterMap_map]
    congr 1
    funext planned
    simp only [Function.comp_apply, id_eq]
    cases planned.action.aspect? <;> rfl
  have once : ((pending ticket plan.mutations).map fun planned => planned.action.aspect?).Nodup :=
    sound.once.sublist (List.filter_sublist.map _)
  rw [aspects]
  refine once.filterMap fun one other aspect first second => ?_
  exact (Option.mem_def.mp first).trans (Option.mem_def.mp second).symm

/-- What is missing of a plan is written. -/
theorem stored_carriedOut_of_pending (sound : plan.IsSound) {planned : Planned} {aspect : Aspect}
    (missing : planned ∈ pending ticket plan.mutations)
    (acts : planned.action.aspect? = some aspect) :
    (plan.carriedOut now ticket).stored aspect.toAttribute = some planned.action.target := by
  rw [carriedOut, if_neg (List.ne_nil_of_mem missing)]
  exact stored_written_of_mem (once_updates sound)
    (mem_updates.mpr ⟨planned, missing, acts, rfl⟩)

/-- What no missing change is about stays. -/
theorem stored_carriedOut_of_not_pending {aspect : Aspect}
    (none_ : forall planned, planned ∈ pending ticket plan.mutations ->
      planned.action.aspect? ≠ some aspect) :
    (plan.carriedOut now ticket).stored aspect.toAttribute =
      ticket.stored aspect.toAttribute := by
  rw [carriedOut]
  split
  next => rfl
  next =>
      apply stored_written_of_not_mem
      intro value member same
      rcases mem_updates.mp member with ⟨planned, missing, acts, _⟩
      exact none_ planned missing (acts.trans (congrArg some same))

theorem frame_carriedOut : (plan.carriedOut now ticket).frame = ticket.frame := by
  rw [carriedOut]
  split
  next => rfl
  next => exact frame_written

/-- A missing change makes a difference. -/
theorem differs_of_pending (sound : plan.IsSound) {planned : Planned} {aspect : Aspect}
    (missing : planned ∈ pending ticket plan.mutations)
    (acts : planned.action.aspect? = some aspect) :
    (plan.carriedOut now ticket).reading aspect.toAttribute ≠
      ticket.reading aspect.toAttribute := by
  have different := (Executor.mem_pending.mp missing).2
  simp only [Rule.isInPlace, acts, beq_eq_false_iff_ne] at different
  have stored : (plan.carriedOut now ticket).stored aspect.toAttribute =
      some planned.action.target := stored_carriedOut_of_pending sound missing acts
  intro same
  rw [Ticket.reading, stored, Option.getD_some] at same
  exact different same.symm

/-- An aspect that differs was missing. -/
theorem pending_of_differs {aspect : Aspect}
    (different : (plan.carriedOut now ticket).stored aspect.toAttribute ≠
      ticket.stored aspect.toAttribute) :
    Exists fun planned => planned ∈ pending ticket plan.mutations ∧
      planned.action.aspect? = some aspect := by
  by_contra none_
  apply different
  apply stored_carriedOut_of_not_pending
  intro planned missing acts
  exact none_ ⟨planned, missing, acts⟩

section OnTicket

variable {scale : PriorityScale} {rules : List Rule} {at_ : Instant} {rule : Rule}
  {action : Action} {aspect : Aspect}

/-- What a leader wants is in place, or it is missing of the plan. -/
theorem inPlace_or_pending (distinct : (rules.map Rule.id).Nodup)
    (leads : Rule.Leads (Rule.holdingOn scale rules ticket at_) aspect rule action) :
    ticket.reading aspect.toAttribute = action.target ∨
      ⟨rule, action⟩ ∈ pending ticket (onTicket scale rules ticket at_).mutations := by
  by_cases same : ticket.reading aspect.toAttribute = action.target
  · exact Or.inl same
  · have absent : Rule.isInPlace ticket action = false := by
      simp only [Rule.isInPlace, leads.acts, beq_eq_false_iff_ne]
      exact same
    have unsatisfied : rule.isSatisfied ticket = false :=
      Rule.isSatisfied_eq_false leads.mem_actions leads.acts same
    exact Or.inr (Executor.mem_pending.mpr
      ⟨(mem_mutations distinct).mpr ⟨unsatisfied, aspect, leads⟩, absent⟩)

/-- A missing change is what the leader on its aspect wants. -/
theorem leads_of_pending (distinct : (rules.map Rule.id).Nodup) {planned : Planned}
    (missing : planned ∈ pending ticket (onTicket scale rules ticket at_).mutations)
    (acts : planned.action.aspect? = some aspect) :
    Rule.Leads (Rule.holdingOn scale rules ticket at_) aspect planned.rule planned.action := by
  rcases (mem_mutations distinct).mp (Executor.mem_pending.mp missing).1 with ⟨_, other, leads⟩
  have same : other = aspect := Option.some.inj (leads.acts.symm.trans acts)
  exact same ▸ leads

/-- A plan that is carried out on its ticket settles it. -/
theorem settled_carriedOut (distinct : (rules.map Rule.id).Nodup)
    (clean : forall rule, rule ∈ rules -> forall action, action ∈ rule.actions -> action.IsClean)
    (now : Stamp) :
    Ticket.Settled (Rule.holdingOn scale rules ticket at_) now ticket
      ((onTicket scale rules ticket at_).carriedOut now ticket) := by
  have sound : (onTicket scale rules ticket at_).IsSound := onTicket_isSound clean
  have reading_eq {aspect : Aspect}
      (same : ((onTicket scale rules ticket at_).carriedOut now ticket).stored aspect.toAttribute =
        ticket.stored aspect.toAttribute) :
      ((onTicket scale rules ticket at_).carriedOut now ticket).reading aspect.toAttribute =
        ticket.reading aspect.toAttribute := by rw [Ticket.reading, same, Ticket.reading]
  have kept {aspect : Aspect}
      (same : ((onTicket scale rules ticket at_).carriedOut now ticket).reading
        aspect.toAttribute = ticket.reading aspect.toAttribute) :
      ((onTicket scale rules ticket at_).carriedOut now ticket).stored aspect.toAttribute =
        ticket.stored aspect.toAttribute := by
    by_contra different
    rcases pending_of_differs different with ⟨planned, missing, acts⟩
    exact differs_of_pending sound missing acts same
  refine ⟨?_, ?_, fun aspect same => kept same, ?_, ?_, ?_, frame_carriedOut⟩
  · intro aspect rule action leads
    rcases inPlace_or_pending distinct leads with inPlace | missing
    · by_cases same : ((onTicket scale rules ticket at_).carriedOut now ticket).stored
          aspect.toAttribute = ticket.stored aspect.toAttribute
      · rw [reading_eq same, inPlace]
      · rcases pending_of_differs same with ⟨planned, missing, acts⟩
        have others := leads_of_pending distinct missing acts
        rcases Rule.Leads.unique (nodup_holdingOn distinct) others leads with ⟨_, equal⟩
        have absent := (Executor.mem_pending.mp missing).2
        simp only [Rule.isInPlace, acts, beq_eq_false_iff_ne] at absent
        exact False.elim (absent (equal ▸ inPlace))
    · rw [Ticket.reading, stored_carriedOut_of_pending sound missing leads.acts, Option.getD_some]
  · intro aspect nobody
    apply reading_eq
    apply stored_carriedOut_of_not_pending
    intro planned missing acts
    exact nobody _ _ (leads_of_pending distinct missing acts)
  · intro aspect different
    have changed : ((onTicket scale rules ticket at_).carriedOut now ticket).stored
        aspect.toAttribute ≠ ticket.stored aspect.toAttribute :=
      fun same => different (reading_eq same)
    rcases pending_of_differs changed with ⟨planned, missing, acts⟩
    have stored : ((onTicket scale rules ticket at_).carriedOut now ticket).stored
        aspect.toAttribute = some planned.action.target :=
      stored_carriedOut_of_pending sound missing acts
    rw [Ticket.reading, stored, Option.getD_some]
  · intro same
    rw [carriedOut, if_pos]
    rw [List.eq_nil_iff_forall_not_mem]
    intro planned missing
    rcases sound.acts planned (Executor.mem_pending.mp missing).1 with ⟨aspect, acts⟩
    exact differs_of_pending sound missing acts (same aspect)
  · rintro ⟨aspect, different⟩
    have changed : ((onTicket scale rules ticket at_).carriedOut now ticket).stored
        aspect.toAttribute ≠ ticket.stored aspect.toAttribute :=
      fun same => different (reading_eq same)
    rcases pending_of_differs changed with ⟨planned, missing, _⟩
    rw [carriedOut, if_neg (List.ne_nil_of_mem missing)]
    rfl

/-- Where no rule fires, there is nothing to carry out. -/
theorem carriedOut_of_idle
    (idle : (Matching.of scale rules ticket at_).firing = []) (now : Stamp) :
    (onTicket scale rules ticket at_).carriedOut now ticket = ticket := by
  rw [carriedOut, if_pos]
  rw [List.eq_nil_iff_forall_not_mem]
  intro planned missing
  have fires := (mem_mutations_resolve.mp (Executor.mem_pending.mp missing).1).1
  rw [isAmong, idle] at fires
  simp [Rule.ordered] at fires

end OnTicket

end Plan

/-! ## Tickets along a chain -/

namespace Engine

variable {S : Type} {engine : Engine} {part : Part S World} {store : Tickets.Store S}
  {before after : World} {matchedAt : Instant} {cycleId : String}

/-- A piece of work leaves every other ticket alone. -/
theorem Did.spares {piece : Piece} (did : engine.Did part store matchedAt cycleId piece before after)
    {id : String} (different : id ≠ piece.job.ticket.id) :
    engine.held after id = engine.held before id := by
  rw [did.handles.held id]
  cases piece.course.result piece.plan.mutations before.clock with
  | none => rfl
  | some ticket => exact if_neg different

/-- Through a store that serves its ticket, a piece of work carries out its plan. -/
theorem Did.carries {piece : Piece} (serves : engine.Serves part store piece.job.ticket.id)
    (did : engine.Did part store matchedAt cycleId piece before after)
    (known : engine.held before piece.job.ticket.id = .ok (some piece.job.ticket)) :
    piece.course.IsOn piece.job.ticket piece.plan.mutations ∧
      engine.held after piece.job.ticket.id =
        .ok (some (piece.plan.carriedOut before.clock piece.job.ticket)) := by
  have isOn := did.isOn serves _ known
  refine ⟨isOn, ?_⟩
  rw [did.handles.held, Plan.carriedOut]
  rcases isOn with ⟨none_, nothing | inPlace⟩ | ⟨missing, wrote⟩
  · rw [nothing, if_pos none_]
    exact known
  · rw [inPlace, if_pos none_]
    exact known
  · rw [wrote, if_neg missing]
    exact if_pos rfl

namespace Chain

variable {pieces : List Piece}

/-- Along a chain, tickets that nobody works on stay. -/
theorem held_of_not_mem (chain : engine.Chain part store matchedAt cycleId pieces before after)
    (ready : engine.IsReady before) {id : String}
    (absent : forall piece, piece ∈ pieces -> piece.job.ticket.id ≠ id) :
    engine.held after id = engine.held before id := by
  induction chain with
  | nil alike => exact held_of_stock (alike ready.calm).2.2.1 id
  | @cons piece _ _ _ _ _ alike did _ inductionHypothesis =>
      have step := did.spares fun same => absent piece List.mem_cons_self same.symm
      rw [inductionHypothesis did.handles.ready fun other member =>
        absent other (List.mem_cons_of_mem _ member), step]
      exact held_of_stock (alike ready.calm).2.2.1 id

/-- Along a chain of work on different tickets, each plan on a served ticket is carried out. -/
theorem held_of_mem (chain : engine.Chain part store matchedAt cycleId pieces before after)
    (ready : engine.IsReady before) (apart : (pieces.map fun piece => piece.job.ticket.id).Nodup)
    {piece : Piece} (member : piece ∈ pieces)
    (serves : engine.Serves part store piece.job.ticket.id)
    (known : engine.held before piece.job.ticket.id = .ok (some piece.job.ticket)) :
    piece.course.IsOn piece.job.ticket piece.plan.mutations ∧
      engine.held after piece.job.ticket.id =
        .ok (some (piece.plan.carriedOut before.clock piece.job.ticket)) := by
  induction chain with
  | nil => cases member
  | @cons first pieces _ _ _ _ alike did rest inductionHypothesis =>
      rcases alike ready.calm with ⟨_, clock, stock, _⟩
      rw [List.map_cons, List.nodup_cons] at apart
      have different : forall other, other ∈ pieces ->
          other.job.ticket.id ≠ first.job.ticket.id := by
        intro other inside same
        exact apart.1 (same ▸ List.mem_map_of_mem (f := fun piece : Piece => piece.job.ticket.id)
          inside)
      rw [<- held_of_stock stock] at known
      rcases List.mem_cons.mp member with rfl | behind
      · rcases did.carries serves known with ⟨isOn, done⟩
        refine ⟨isOn, ?_⟩
        rw [rest.held_of_not_mem did.handles.ready different, done, clock]
      · have later : engine.held _ piece.job.ticket.id = .ok (some piece.job.ticket) :=
          (did.spares (different piece behind)).trans known
        rcases inductionHypothesis did.handles.ready apart.2 behind later with ⟨isOn, done⟩
        refine ⟨isOn, ?_⟩
        rw [done, did.handles.clock, clock]

end Chain

namespace Passes

variable {turn : Cycle.Turn S} {rules : List Rule} {tickets : List Ticket} {pieces : List Piece}
  {report : Report}

/-- The pieces of a turn are on different tickets. -/
theorem apart (passes : engine.Passes part store turn rules tickets pieces report) :
    (pieces.map fun piece => piece.job.ticket.id).Nodup := by
  have jobs : (pieces.map fun piece => piece.job.ticket.id) =
      ((pieces.map Piece.job).map Cycle.Job.ticket).map Ticket.id := by
    rw [List.map_map, List.map_map]
    rfl
  have some_ : ((pieces.map Piece.job).map Cycle.Job.ticket).Sublist tickets :=
    ((passes.jobs.map _).trans (Cycle.tickets_jobsOf _ _ _ _)).trans
      (Cycle.underCap_sublist _ _)
  rw [jobs]
  exact passes.nodup.sublist (some_.map Ticket.id)

/-- Each piece is the job on a ticket of the turn, with the plan for that ticket. -/
theorem of_mem (passes : engine.Passes part store turn rules tickets pieces report)
    {piece : Piece} (member : piece ∈ pieces) :
    piece.job.ticket ∈ Cycle.underCap turn.pace.cap tickets ∧
      engine.held (part.get turn.state) piece.job.ticket.id = .ok (some piece.job.ticket) ∧
      (Matching.of engine.scale rules piece.job.ticket
        (part.get turn.state).clock.instant).firing ≠ [] ∧
      piece.job.plan = .ok (Plan.onTicket engine.scale rules piece.job.ticket
        (part.get turn.state).clock.instant) := by
  have job := passes.jobs.subset (List.mem_map_of_mem (f := Piece.job) member)
  rcases Cycle.mem_jobsOf.mp job with ⟨inside, fires, _, planned⟩
  have listed := (Cycle.underCap_sublist _ _).subset inside
  exact ⟨inside, ((passes.listed piece.job.ticket).mp listed).1, fires, planned⟩

end Passes

section Served

variable {turn : Cycle.Turn S} {rules : List Rule} {tickets : List Ticket} {pieces : List Piece}
  {report : Report}

/-- The plan of a piece is the plan for its ticket. -/
theorem Passes.plan_eq (passes : engine.Passes part store turn rules tickets pieces report)
    {piece : Piece} (member : piece ∈ pieces) :
    piece.plan = Plan.onTicket engine.scale rules piece.job.ticket
      (part.get turn.state).clock.instant := by
  rcases passes.chain.did member with ⟨_, _, did⟩
  exact Except.ok.inj (did.planned.symm.trans (passes.of_mem member).2.2.2)

/-- Through a store that serves its ticket, the course of a piece is up to the ticket. -/
theorem Passes.isOn (passes : engine.Passes part store turn rules tickets pieces report)
    (ready : engine.IsReady (part.get turn.state)) {piece : Piece} (member : piece ∈ pieces)
    (serves : engine.Serves part store piece.job.ticket.id) :
    piece.course.IsOn piece.job.ticket piece.plan.mutations :=
  (passes.chain.held_of_mem ready passes.apart member serves (passes.of_mem member).2.1).1

/-- After a turn, each served ticket that was worked on is as its plan says. -/
theorem Passes.held_of_mem (passes : engine.Passes part store turn rules tickets pieces report)
    (ready : engine.IsReady (part.get turn.state)) {piece : Piece} (member : piece ∈ pieces)
    (serves : engine.Serves part store piece.job.ticket.id) :
    engine.held (part.get (turn.after (engine.deskIn part store))) piece.job.ticket.id =
      .ok (some ((Plan.onTicket engine.scale rules piece.job.ticket
        (part.get turn.state).clock.instant).carriedOut (part.get turn.state).clock
          piece.job.ticket)) := by
  have done := (passes.chain.held_of_mem ready passes.apart member serves
    (passes.of_mem member).2.1).2
  rw [done, passes.plan_eq member]

/-- After a turn, every ticket that was not worked on is as before. -/
theorem Passes.held_of_not_mem
    (passes : engine.Passes part store turn rules tickets pieces report)
    (ready : engine.IsReady (part.get turn.state)) {id : String}
    (absent : forall piece, piece ∈ pieces -> piece.job.ticket.id ≠ id) :
    engine.held (part.get (turn.after (engine.deskIn part store))) id =
      engine.held (part.get turn.state) id :=
  passes.chain.held_of_not_mem ready absent

/-- Where no job was left, there is a piece for every ticket on which rules fire. -/
theorem Passes.exists_of_undeferred
    (passes : engine.Passes part store turn rules tickets pieces report)
    (undeferred : report.ticketsDeferred = Cycle.overCap turn.pace.cap tickets) {ticket : Ticket}
    (taken : ticket ∈ Cycle.underCap turn.pace.cap tickets)
    (fires : (Matching.of engine.scale rules ticket
      (part.get turn.state).clock.instant).firing ≠ []) :
    Exists fun piece => piece ∈ pieces ∧ piece.job.ticket = ticket := by
  have many : (Cycle.jobsOf engine.scale rules (part.get turn.state).clock.instant
      (Cycle.underCap turn.pace.cap tickets)).length ≤ (pieces.map Piece.job).length := by
    have counted := passes.deferred_eq
    rw [undeferred] at counted
    rw [List.length_map]
    omega
  have all := passes.jobs.eq_of_length_le many
  have job : (⟨ticket, (Matching.of engine.scale rules ticket
      (part.get turn.state).clock.instant).firing, .ok (Plan.onTicket engine.scale rules ticket
        (part.get turn.state).clock.instant)⟩ : Cycle.Job) ∈ pieces.map Piece.job := by
    rw [all]
    exact Cycle.mem_jobsOf.mpr ⟨taken, fires, rfl, rfl⟩
  rcases List.mem_map.mp job with ⟨piece, member, same⟩
  exact ⟨piece, member, congrArg Cycle.Job.ticket same⟩

/-- The ticket of a piece is the one that was held. -/
theorem Passes.ticket_eq (passes : engine.Passes part store turn rules tickets pieces report)
    {piece : Piece} (member : piece ∈ pieces) {ticket : Ticket}
    (held : engine.held (part.get turn.state) piece.job.ticket.id = .ok (some ticket)) :
    piece.job.ticket = ticket := by
  rw [(passes.of_mem member).2.1] at held
  exact Option.some.inj (Except.ok.inj held)

/-- A ticket on which no rule fires was not worked on. -/
theorem Passes.ne_of_idle (passes : engine.Passes part store turn rules tickets pieces report)
    {ticket : Ticket} (held : engine.held (part.get turn.state) ticket.id = .ok (some ticket))
    (idle : (Matching.of engine.scale rules ticket
      (part.get turn.state).clock.instant).firing = []) :
    forall piece, piece ∈ pieces -> piece.job.ticket.id ≠ ticket.id := by
  intro piece member same
  have fires := (passes.of_mem member).2.2.1
  rw [passes.ticket_eq member (same ▸ held)] at fires
  exact fires idle

/-- What was done on a ticket was done by a piece. -/
theorem Passes.exists_of_done
    (passes : engine.Passes part store turn rules tickets pieces report) {done : Cycle.Done}
    (member : done ∈ turn.done (engine.deskIn part store)) :
    Exists fun piece => piece ∈ pieces ∧ piece.done = done ∧
      piece.job.ticket.id = done.ticketId := by
  rw [passes.done_eq] at member
  rcases List.mem_map.mp member with ⟨piece, inside, rfl⟩
  rcases passes.chain.did inside with ⟨_, _, did⟩
  exact ⟨piece, inside, rfl, did.named.symm⟩

/-- After a turn that has left nothing to do on a ticket, the ticket is as the plan for it says. -/
theorem Passes.settles (passes : engine.Passes part store turn rules tickets pieces report)
    (ready : engine.IsReady (part.get turn.state)) {ticket : Ticket}
    (serves : engine.Serves part store ticket.id)
    (held : engine.held (part.get turn.state) ticket.id = .ok (some ticket))
    (worked : (Matching.of engine.scale rules ticket
        (part.get turn.state).clock.instant).firing = [] ∨
      Exists fun piece => piece ∈ pieces ∧ piece.job.ticket = ticket) :
    engine.held (part.get (turn.after (engine.deskIn part store))) ticket.id =
      .ok (some ((Plan.onTicket engine.scale rules ticket
        (part.get turn.state).clock.instant).carriedOut (part.get turn.state).clock ticket)) := by
  rcases worked with idle | ⟨piece, member, rfl⟩
  · rw [Plan.carriedOut_of_idle idle]
    exact (passes.held_of_not_mem ready (passes.ne_of_idle held idle)).trans held
  · exact passes.held_of_mem ready member serves

end Served

end Engine
/-! ## Whole cycles

One cycle of an engine does what a sentence can say: of the rules whose conditions hold on a ticket
as it was fetched, the earliest one with an action on an aspect decides that aspect.  How the work
is spread over sorting rules out, deciding between actions, reading again and writing once does not
show in the outcome, and neither does which home the tickets have.

The sentence is about cycles that leave no job over.  Tickets that are not worked on in a cycle,
closed ones and ones beyond its cap, are not touched by any cycle.
-/

namespace Engine

/--
A cycle that can read its rules and tickets answers with a report.  It takes on the tickets that
are worked on, up to its cap, and where it leaves none of their jobs over it settles each of them
by the rules that held on it, and leaves everything else exactly as it was.
-/
theorem settles_by_earliest {engine : Engine} {turn : Cycle.Turn World} {rules : List Rule}
    {tickets : List Ticket} (ready : engine.IsReady turn.state)
    (read : (turn.readings engine.desk).1 = .ok (rules, tickets))
    (distinct : (rules.map Rule.id).Nodup) :
    (forall ticket, ticket ∈ tickets ↔
      engine.held turn.state ticket.id = .ok (some ticket) ∧
        engine.isOpen turn.state ticket.id = true) ∧
    Exists fun report => (turn.outcome engine.desk).1 = .ok report ∧ report.aborted = false ∧
      (report.ticketsDeferred = Cycle.overCap turn.pace.cap tickets ->
        (forall ticket, ticket ∈ Cycle.underCap turn.pace.cap tickets -> Exists fun after =>
          engine.held (turn.after engine.desk) ticket.id = .ok (some after) ∧
          Ticket.Settled
            (Rule.holdingOn engine.scale rules ticket turn.state.clock.instant)
            turn.state.clock ticket after ∧
          (Rule.holdingOn engine.scale rules ticket turn.state.clock.instant = [] ->
            after = ticket)) ∧
        (forall id,
          (forall ticket, ticket ∈ Cycle.underCap turn.pace.cap tickets -> ticket.id ≠ id) ->
            engine.held (turn.after engine.desk) id = engine.held turn.state id)) := by
  have hampers := tickets_hampers engine
  rcases hampers.passes Part.whole_isLawful turn ready read with ⟨pieces, report, passes⟩
  have clean : forall rule, rule ∈ rules -> forall action, action ∈ rule.actions ->
      action.IsClean := fun rule member => Rules.isClean_of_activeAmong passes.active member
  refine ⟨passes.listed, report, passes.answered, passes.aborted_eq, ?_⟩
  intro undeferred
  constructor
  · intro ticket taken
    have settled : Ticket.Settled
        (Rule.holdingOn engine.scale rules ticket turn.state.clock.instant) turn.state.clock ticket
          ((Plan.onTicket engine.scale rules ticket turn.state.clock.instant).carriedOut
            turn.state.clock ticket) := Plan.settled_carriedOut distinct clean turn.state.clock
    have worked : (Matching.of engine.scale rules ticket turn.state.clock.instant).firing = [] ∨
        Exists fun piece => piece ∈ pieces ∧ piece.job.ticket = ticket := by
      by_cases idle : (Matching.of engine.scale rules ticket turn.state.clock.instant).firing = []
      · exact Or.inl idle
      · exact Or.inr (passes.exists_of_undeferred undeferred taken idle)
    have held := ((passes.listed ticket).mp ((Cycle.underCap_sublist _ _).subset taken)).1
    refine ⟨_, passes.settles ready (tickets_serves engine _) held worked, settled, ?_⟩
    intro nobody
    apply Plan.carriedOut_of_idle
    rw [List.eq_nil_iff_forall_not_mem]
    intro rule fires
    have holds : rule ∈ Rule.holdingOn engine.scale rules ticket turn.state.clock.instant :=
      (Matching.mem_firing.mp fires).1
    rw [nobody] at holds
    cases holds
  · intro id absent
    refine passes.held_of_not_mem ready fun piece member => ?_
    exact absent _ (passes.of_mem member).1

/-- On a ticket with a low priority the first of the two rules of the small engine wins. -/
theorem early_settles_by_earliest : Exists fun after =>
    Sample.engine.held ((Sample.turn (Sample.world [Sample.early, Sample.late])).after
      Sample.engine.desk) Sample.ticket.id = .ok (some after) ∧
      after.reading .priority = "High" := by
  have ready := Sample.isReady_world [Sample.early, Sample.late]
  have read := Sample.readings_world (List.sublist_append_left [Sample.early, Sample.late] [Sample.later])
  rcases settles_by_earliest ready read (by decide) with ⟨_, report, answered, _, settles⟩
  have undeferred := (tickets_hampers Sample.engine).undeferred Part.whole_isLawful
    (Sample.turn (Sample.world [Sample.early, Sample.late])) ready read (Sample.prompt _ _) answered
  rcases (settles undeferred).1 Sample.ticket List.mem_cons_self with ⟨after, held, settled, _⟩
  refine ⟨after, held, settled.led .priority Sample.early ⟨.updatePriority, "High"⟩ ?_⟩
  have both : Rule.holdingOn Sample.engine.scale [Sample.early, Sample.late] Sample.ticket
      Sample.noon.instant = [Sample.early, Sample.late] := by rfl
  exact both ▸ Rule.Leads.of_pair rfl (by decide)

end Engine
end Triage
