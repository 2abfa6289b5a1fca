import Triage.Proofs.WritesOnce

namespace Triage

/-!
# What is in place while the rest is written

Of the changes of a plan some may be in place on the ticket as it was read again.  They are left
alone, and the one write is for the others.  If the store answers that write, with a yes or a no,
what was in place is recorded as skipped and only the rest by the answer.  If the store fails
instead, the failure is taken for everything that was planned: what was in place, and was no part of
the write, is recorded as failed as well.

So what is in place is spared by the write of the rest exactly when there is none of it, when
nothing is left to write, or when the store answers.
-/

namespace Executor

variable {mutations : List Planned} {course : Course} {live : Ticket} {planned : Planned}

/-- What is in place is recorded as skipped. -/
def SparesSettled (live : Ticket) (mutations : List Planned) (executions : List Execution) : Prop :=
  forall planned, planned ∈ settled live mutations ->
    planned.IsRecorded executions .skippedDuplicate none

/-- What is recorded of planned changes on a ticket that was read again, by what the store answered
when it was asked to make the missing ones. -/
structure TellsByAnswer (live : Ticket) (mutations : List Planned) (answer : Except Failure Bool)
    (executions : List Execution) : Prop where
  /-- What is in place is skipped if nothing is missing, or if the store says yes or no. -/
  inPlace : (pending live mutations = [] ∨ Exists fun written => answer = .ok written) ->
    SparesSettled live mutations executions
  /-- What is missing is applied or skipped, as the store says. -/
  missing : forall written, answer = .ok written ->
    forall planned, planned ∈ pending live mutations -> planned.IsRecorded executions
      (if written then .applied else .skippedDuplicate) none
  /-- If the store fails instead, everything has failed. -/
  failed : pending live mutations ≠ [] -> forall failure, answer = .error failure ->
    forall planned, planned ∈ mutations -> planned.IsRecorded executions .failed
      (some ("Ticket write failed: " ++ failure.report))

theorem mem_settled : planned ∈ settled live mutations ↔
    planned ∈ mutations ∧ Rule.isInPlace live planned.action = true := List.mem_filter

/-- A planned change is recorded under one outcome only. -/
theorem outcome_unique {executions : List Execution} {one other : Outcome} {error reason : Option String}
    (first : planned.IsRecorded executions one error)
    (second : planned.IsRecorded executions other reason) : one = other := by
  rcases first.told with ⟨execution, member, tells⟩
  exact (first.alike execution member tells).1.symm.trans (second.alike execution member tells).1

section Course

variable {S : Type} {store : Tickets.Store S} {ticketId : String} {state between after : S}

/-- What the store answers when it is asked for what is missing. -/
def answerOf (store : Tickets.Store S) (live : Ticket) (mutations : List Planned) (state : S) :
    Except Failure Bool :=
  ((writing store live (pending live mutations)).perform state).1

/-- On a ticket that is found, nothing was planned, or everything is in place, or what is missing is
written. -/
theorem Went.asked_of_find (found : (store.find ticketId).perform state = (.ok (some live), between))
    (went : Went store ticketId mutations course state after) :
    (pending live mutations = [] ∧ Exists fun changes =>
      course.Asked mutations (.ok (some live)) changes) ∨
    (pending live mutations ≠ [] ∧ course = .wrote live
      ((answerOf store live mutations between).mapError fun failure => .unwritten failure.report)) := by
  have again := reread_of_find store ticketId state found
  cases went with
  | nothing none_ =>
      subst none_
      exact Or.inl ⟨rfl, _, .nothing rfl⟩
  | unread read => cases again.symm.trans read
  | inPlace read none_ =>
      cases again.symm.trans read
      exact Or.inl ⟨none_, _, .inPlace none_⟩
  | wrote read some_ wrote =>
      cases again.symm.trans read
      rw [perform_write] at wrote
      cases (Prod.mk.inj wrote).1
      exact Or.inr ⟨some_, rfl⟩

end Course

section Plan

variable {plan : Plan} {executions : List Execution} {ticketId : String} {matchedAt : Instant}
  {cycleId : Option String}
  (acts : forall planned, planned ∈ plan.mutations ->
    Exists fun aspect => planned.action.aspect? = some aspect)
  (plain : forall planned, planned ∈ plan.notifications -> planned.action.aspect? = none)
  (each : List.Forall₂ (fun group execution => Exists fun recordId =>
    execution = Group.execution group recordId ticketId matchedAt cycleId)
      (groups (course.entries plan)) executions)

include acts plain each

/-- Where nothing is missing, everything that was planned is skipped. -/
theorem Course.Asked.tellsByAnswer_of_nothing {changes : List Tickets.Change}
    (asked : course.Asked plan.mutations (.ok (some live)) changes)
    (none_ : pending live plan.mutations = []) (answer : Except Failure Bool) :
    TellsByAnswer live plan.mutations answer executions := by
  refine ⟨fun _ planned member => ?_, fun _ _ planned member => ?_, fun some_ => absurd none_ some_⟩
  · have recorded := asked.isRecorded acts plain each (mem_settled.mp member).1
    cases asked with
    | nothing => exact recorded
    | inPlace => exact recorded
    | wrote some_ => exact absurd none_ some_
  · rw [none_] at member
    cases member

/-- Where something is missing, the answer of the store is told. -/
theorem tellsByAnswer_of_write {answer : Except Failure Bool}
    (some_ : pending live plan.mutations ≠ [])
    (wrote : course = .wrote live (answer.mapError fun failure => .unwritten failure.report)) :
    TellsByAnswer live plan.mutations answer executions := by
  have asked : course.Asked plan.mutations (.ok (some live))
      [asking live (pending live plan.mutations) answer] := wrote ▸ .wrote some_
  have recorded {planned : Planned} (member : planned ∈ plan.mutations) :=
    asked.isRecorded acts plain each member
  subst wrote
  refine ⟨?_, ?_, ?_⟩
  · rintro (none_ | ⟨written, rfl⟩) planned member
    · exact absurd none_ some_
    · rcases mem_settled.mp member with ⟨inside, inPlace⟩
      exact Course.outcomeOf_of_inPlace inPlace ▸ recorded inside
  · rintro written rfl planned member
    rcases mem_pending.mp member with ⟨inside, missing⟩
    exact Course.outcomeOf_of_missing missing ▸ recorded inside
  · rintro _ failure rfl planned member
    exact recorded member

end Plan

/-- What is in place is spared exactly when there is none of it, when nothing is missing, or when the
store answers. -/
theorem TellsByAnswer.sparesSettled_iff {answer : Except Failure Bool} {executions : List Execution}
    (tells : TellsByAnswer live mutations answer executions) :
    SparesSettled live mutations executions ↔ settled live mutations = [] ∨
      pending live mutations = [] ∨ Exists fun written => answer = .ok written := by
  constructor
  · intro spares
    by_contra neither
    rcases not_or.mp neither with ⟨inPlace, others⟩
    rcases not_or.mp others with ⟨missing, unanswered⟩
    cases answer with
    | ok written => exact unanswered ⟨written, rfl⟩
    | error failure =>
        rcases List.exists_mem_of_ne_nil _ inPlace with ⟨planned, member⟩
        have failed := tells.failed missing failure rfl planned (mem_settled.mp member).1
        cases outcome_unique (spares planned member) failed
  · rintro (none_ | answers)
    · intro planned member
      rw [none_] at member
      cases member
    · exact tells.inPlace answers

section Run

variable {S : Type} {executor : Executor S} {state between : S} {plan : Plan} {ticketId : String}
  (acts : forall planned, planned ∈ plan.mutations ->
    Exists fun aspect => planned.action.aspect? = some aspect)
  (plain : forall planned, planned ∈ plan.notifications -> planned.action.aspect? = none)
  (found : (executor.store.find ticketId).perform state = (.ok (some live), between))
  (matchedAt : Instant) (cycleId : Option String)

include acts plain found

/-- Carrying out a plan on a ticket that is found tells of its changes by the answer of the store. -/
theorem perform_apply_tells : Exists fun executions => Exists fun after =>
    (executor.apply ticketId plan matchedAt cycleId).perform state = (.ok executions, after) ∧
    TellsByAnswer live plan.mutations (answerOf executor.store live plan.mutations between)
      executions := by
  rcases perform_apply_groups executor.isQuiet_trivial ticketId plan matchedAt cycleId state with
    ⟨course, reached, executions, after, applied, went, _, each⟩
  refine ⟨executions, after, applied, ?_⟩
  rcases went.asked_of_find found with ⟨none_, changes, asked⟩ | ⟨some_, wrote⟩
  · exact asked.tellsByAnswer_of_nothing acts plain each none_ _
  · exact tellsByAnswer_of_write acts plain each some_ wrote

/-- Carrying out a plan on a ticket that is found always answers.  What is recorded of its changes goes
by what the store answers when it is asked to make the missing ones, and so what is in place is
recorded as skipped exactly when there is none of it, when nothing is missing, or when the store
answers and does not fail. -/
theorem spares_settled_iff : Exists fun executions => Exists fun after =>
    (executor.apply ticketId plan matchedAt cycleId).perform state = (.ok executions, after) ∧
    TellsByAnswer live plan.mutations (answerOf executor.store live plan.mutations between)
      executions ∧
    (SparesSettled live plan.mutations executions ↔ settled live plan.mutations = [] ∨
      pending live plan.mutations = [] ∨ Exists fun written =>
        answerOf executor.store live plan.mutations between = .ok written) := by
  rcases perform_apply_tells acts plain found matchedAt cycleId with
    ⟨executions, after, applied, tells⟩
  exact ⟨executions, after, applied, tells, tells.sparesSettled_iff⟩

end Run
end Executor

namespace Sample

/-- A rule of which one action is in place on the ticket, and the other one is not. -/
def halfDone : Rule :=
  { early with actions := [⟨.updatePriority, "Low"⟩, ⟨.reassign, "Support Team"⟩] }

/-- The change that is in place. -/
def inPlace : Planned := ⟨halfDone, ⟨.updatePriority, "Low"⟩⟩

/-- The change that is not. -/
def missing : Planned := ⟨halfDone, ⟨.reassign, "Support Team"⟩⟩

theorem mutations_of_halfDone :
    (Plan.resolve ticket.id [halfDone] []).mutations = [inPlace, missing] := by
  have ordered : Rule.ordered [halfDone] = [halfDone] := List.mergeSort_singleton halfDone
  simp only [Plan.resolve, ordered, List.filter_nil, List.append_nil]
  rfl

/-- The small engine with its ticket, and a store that does something else at the first change. -/
def trapped (effect : Drill.Effect) : Drill.Stage World :=
  ⟨world [], [⟨.changeTicket, effect, none, some 1⟩]⟩

theorem inPlace_mem_settled :
    inPlace ∈ Executor.settled ticket (Plan.resolve ticket.id [halfDone] []).mutations := by
  rw [mutations_of_halfDone]
  exact Executor.mem_settled.mpr ⟨List.mem_cons_self, by decide⟩

theorem find_trapped (effect : Drill.Effect) :
    (drilled.store.find ticket.id).perform (trapped effect) =
      (.ok (some ticket), trapped effect) := rfl

/-- A store that refuses the missing change leaves what is in place skipped. -/
theorem refused_change_spares_settled : Exists fun executions => Exists fun after =>
    (drilled.apply ticket.id (Plan.resolve ticket.id [halfDone] []) noon.instant none).perform
      (trapped .answersFalse) = (.ok executions, after) ∧
    inPlace.IsRecorded executions .skippedDuplicate none := by
  rcases Executor.spares_settled_iff (fun _ member => Plan.acts_of_mem_mutations member)
    (fun _ member => (Plan.mem_rules_of_notification member).2.2) (find_trapped .answersFalse)
    noon.instant none with ⟨executions, after, applied, _, spares⟩
  have refused : Executor.answerOf drilled.store ticket
      (Plan.resolve ticket.id [halfDone] []).mutations (trapped .answersFalse) = .ok false := by
    rw [mutations_of_halfDone]
    rfl
  exact ⟨executions, after, applied,
    spares.mpr (Or.inr (Or.inr ⟨false, refused⟩)) inPlace inPlace_mem_settled⟩

/-- A store that fails at the missing change makes what is in place fail as well. -/
theorem failed_change_spares_nothing : Exists fun executions => Exists fun after =>
    (drilled.apply ticket.id (Plan.resolve ticket.id [halfDone] []) noon.instant none).perform
      (trapped (.fails (.plain .badValue "connection reset"))) = (.ok executions, after) ∧
    inPlace ∈ Executor.settled ticket (Plan.resolve ticket.id [halfDone] []).mutations ∧
    inPlace.IsRecorded executions .failed (some "Ticket write failed: connection reset") ∧
    ¬Executor.SparesSettled ticket (Plan.resolve ticket.id [halfDone] []).mutations executions := by
  rcases Executor.perform_apply_tells (fun _ member => Plan.acts_of_mem_mutations member)
    (fun _ member => (Plan.mem_rules_of_notification member).2.2)
    (find_trapped (.fails (.plain .badValue "connection reset"))) noon.instant none with
    ⟨executions, after, applied, tells⟩
  have failed : Executor.answerOf drilled.store ticket
      (Plan.resolve ticket.id [halfDone] []).mutations
      (trapped (.fails (.plain .badValue "connection reset"))) =
        .error (.plain .badValue "connection reset") := by
    rw [mutations_of_halfDone]
    rfl
  have some_ : Executor.pending ticket (Plan.resolve ticket.id [halfDone] []).mutations ≠ [] := by
    rw [mutations_of_halfDone]
    exact List.ne_nil_of_mem (Executor.mem_pending.mpr
      ⟨List.mem_cons_of_mem inPlace (List.mem_singleton_self missing), by decide⟩)
  have recorded := tells.failed some_ _ failed inPlace
    (Executor.mem_settled.mp inPlace_mem_settled).1
  refine ⟨executions, after, applied, inPlace_mem_settled, recorded, fun spares => ?_⟩
  cases Executor.outcome_unique (spares inPlace inPlace_mem_settled) recorded

end Sample
end Triage
