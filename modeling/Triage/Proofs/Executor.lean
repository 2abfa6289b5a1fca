import Triage.Proofs.Act
import Triage.Proofs.Grouping

namespace Triage

/-!
# How a plan is carried out

Carrying out a plan always answers, whatever its store does.  It takes one of four courses: there
was nothing to change, the ticket could not be read again, everything was in place, or what was
missing went to the store in one write.  The course says what became of each action, and the only
change that a store can have seen is that one write.

Everything else that is done, reading, sending and drawing ids, is *quiet*: what counts as quiet is
left open here, and is any relation between states that these operations run along.
-/

namespace Executor

/-- How the changes of a plan went. -/
inductive Course where
  /-- There was nothing to change. -/
  | nothing
  /-- The ticket could not be read again. -/
  | unread (fault : Fault)
  /-- On the ticket as it was read, everything was in place. -/
  | inPlace (live : Ticket)
  /-- What was missing went to the store. -/
  | wrote (live : Ticket) (answer : Except Fault Bool)

namespace Course

/-- The course of changes on a ticket that is read and written without fail. -/
def IsOn (ticket : Ticket) (mutations : List Planned) (course : Course) : Prop :=
  (pending ticket mutations = [] ∧ (course = nothing ∨ course = inPlace ticket)) ∨
    (pending ticket mutations ≠ [] ∧ course = wrote ticket (.ok true))

/-- The ticket as it was read. -/
def live : Course -> Option Ticket
  | nothing => none
  | unread _ => none
  | inPlace live => some live
  | wrote live _ => some live

/-- What became of the changes. -/
def changes (mutations : List Planned) : Course -> List Entry
  | nothing => []
  | unread fault => failedEntries fault mutations
  | inPlace live => (settled live mutations).map (entryOf .skippedDuplicate none)
  | wrote _ (.error fault) => failedEntries fault mutations
  | wrote live (.ok written) =>
      (settled live mutations).map (entryOf .skippedDuplicate none) ++
        (pending live mutations).map
          (entryOf (if written then .applied else .skippedDuplicate) none)

/-- What became of everything in a plan. -/
def entries (plan : Plan) (course : Course) : List Entry :=
  course.changes plan.mutations ++ plan.superseded.map entryOfSuperseded ++
    plan.notifications.map (entryOf .applied none)

end Course

variable {S : Type}

/-- A course that changes took, with the states before and after. -/
inductive Went (store : Tickets.Store S) (ticketId : String) (mutations : List Planned) :
    Course -> S -> S -> Prop
  | nothing {state : S} : mutations = [] -> Went store ticketId mutations .nothing state state
  | unread {fault : Fault} {state after : S} :
      (reread store ticketId).perform state = (.ok (.error fault), after) ->
      Went store ticketId mutations (.unread fault) state after
  | inPlace {live : Ticket} {state after : S} :
      (reread store ticketId).perform state = (.ok (.ok live), after) ->
      pending live mutations = [] ->
      Went store ticketId mutations (.inPlace live) state after
  | wrote {live : Ticket} {answer : Except Fault Bool} {state between after : S} :
      (reread store ticketId).perform state = (.ok (.ok live), between) ->
      pending live mutations ≠ [] ->
      (write store live (pending live mutations)).perform between = (.ok answer, after) ->
      Went store ticketId mutations (.wrote live answer) state after

section Changes

variable (store : Tickets.Store S) (ticketId : String) (state : S)

/-- Reading again always answers. -/
theorem perform_reread : Exists fun result => Exists fun after =>
    (reread store ticketId).perform state = (.ok result, after) ∧
      after = ((store.find ticketId).perform state).2 := by
  rw [reread, Act.perform_attempt_bind]
  rcases ((store.find ticketId).perform state).1 with failure | found | ticket
  · exact ⟨_, _, rfl, rfl⟩
  · exact ⟨_, _, rfl, rfl⟩
  · exact ⟨_, _, rfl, rfl⟩

/-- A ticket that was read again is the one that the store found. -/
theorem find_of_reread {live : Ticket} {after : S}
    (read : (reread store ticketId).perform state = (.ok (.ok live), after)) :
    (store.find ticketId).perform state = (.ok (some live), after) := by
  rw [reread, Act.perform_attempt_bind] at read
  cases performed : (store.find ticketId).perform state with
  | mk result between =>
      rw [performed] at read
      cases result with
      | error failure => cases read
      | ok found =>
          cases found with
          | none => cases read
          | some ticket =>
              cases read
              rfl

/-- A ticket that the store finds is read again. -/
theorem reread_of_find {live : Ticket} {after : S}
    (found : (store.find ticketId).perform state = (.ok (some live), after)) :
    (reread store ticketId).perform state = (.ok (.ok live), after) := by
  rw [reread, Act.perform_attempt_bind, found]
  rfl

/-- What writing asks of the store. -/
def writing (live : Ticket) (planned : List Planned) : Act S Bool :=
  store.change live.id (.ofAspects (Plan.updates planned)) (some live.updatedAt.instant)

/-- Writing always answers, as the store does. -/
theorem perform_write (live : Ticket) (planned : List Planned) :
    (write store live planned).perform state =
      (.ok (((writing store live planned).perform state).1.mapError fun failure =>
        .unwritten failure.report), ((writing store live planned).perform state).2) := by
  rw [write, Act.perform_attempt_bind, <- writing]
  rcases (writing store live planned).perform state with ⟨failure | written, after⟩ <;> rfl

theorem perform_applyMutations_ok {mutations : List Planned} {between after : S} {live : Ticket}
    {entries : List Entry} (some_ : mutations.isEmpty = false)
    (read : (reread store ticketId).perform state = (.ok (.ok live), between))
    (made : (mutate store live mutations).perform between = (.ok (.ok entries), after)) :
    (applyMutations store ticketId mutations).perform state =
      (.ok (some live, entries), after) := by
  rw [applyMutations, some_, if_neg Bool.false_ne_true, Act.perform_bind_ok read]
  exact Act.perform_bind_ok made

theorem perform_applyMutations_error {mutations : List Planned} {between after : S}
    {live : Ticket} {fault : Fault} (some_ : mutations.isEmpty = false)
    (read : (reread store ticketId).perform state = (.ok (.ok live), between))
    (made : (mutate store live mutations).perform between = (.ok (.error fault), after)) :
    (applyMutations store ticketId mutations).perform state =
      (.ok (some live, failedEntries fault mutations), after) := by
  rw [applyMutations, some_, if_neg Bool.false_ne_true, Act.perform_bind_ok read]
  exact Act.perform_bind_ok made

/-- The changes of a plan take one of the courses, and are answered for accordingly. -/
theorem perform_applyMutations (mutations : List Planned) :
    Exists fun course => Exists fun after =>
      (applyMutations store ticketId mutations).perform state =
        (.ok (course.live, course.changes mutations), after) ∧
      Went store ticketId mutations course state after := by
  cases empty : mutations.isEmpty with
  | true =>
      have nothing := List.isEmpty_iff.mp empty
      subst nothing
      exact ⟨.nothing, state, rfl, .nothing rfl⟩
  | false =>
      rcases perform_reread store ticketId state with ⟨result, between, read, _⟩
      cases result with
      | error fault =>
          refine ⟨.unread fault, between, ?_, .unread read⟩
          rw [applyMutations, empty, if_neg Bool.false_ne_true, Act.perform_bind_ok read]
          rfl
      | ok live =>
          cases rest : (pending live mutations).isEmpty with
          | true =>
              have done : (mutate store live mutations).perform between =
                  (.ok (.ok ((settled live mutations).map (entryOf .skippedDuplicate none))),
                    between) := by
                rw [mutate, rest, if_pos rfl]
                rfl
              exact ⟨.inPlace live, between,
                perform_applyMutations_ok store ticketId state empty read done,
                .inPlace read (List.isEmpty_iff.mp rest)⟩
          | false =>
              have some_ : pending live mutations ≠ [] := by
                intro none_
                rw [none_] at rest
                cases rest
              have wrote := perform_write store between live (pending live mutations)
              generalize (writing store live (pending live mutations)).perform between = performed
                at wrote
              rcases performed with ⟨failure | written, after⟩
              · have done : (mutate store live mutations).perform between =
                    (.ok (.error (.unwritten failure.report)), after) := by
                  rw [mutate, rest, if_neg Bool.false_ne_true, Act.perform_bind_ok wrote]
                  rfl
                exact ⟨.wrote live (.error (.unwritten failure.report)), after,
                  perform_applyMutations_error store ticketId state empty read done,
                  .wrote read some_ wrote⟩
              · have done : (mutate store live mutations).perform between =
                    (.ok (.ok ((settled live mutations).map (entryOf .skippedDuplicate none) ++
                      (pending live mutations).map
                        (entryOf (if written then .applied else .skippedDuplicate) none))),
                      after) := by
                  rw [mutate, rest, if_neg Bool.false_ne_true, Act.perform_bind_ok wrote]
                  rfl
                exact ⟨.wrote live (.ok written), after,
                  perform_applyMutations_ok store ticketId state empty read done,
                  .wrote read some_ wrote⟩

end Changes

/-! ## What nobody sees of a ticket -/

/-- The operations that no change is made with are quiet. -/
structure IsQuiet (executor : Executor S) (quiet : S -> S -> Prop) : Prop where
  refl : forall state, quiet state state
  trans : forall {first second third}, quiet first second -> quiet second third ->
    quiet first third
  find : forall id, (executor.store.find id).Along quiet
  dispatch : forall dispatch, executor.dispatch = some dispatch ->
    forall target text, (dispatch target text).Along quiet
  draw : (Act.draw executor.freshId).Along quiet

/-- Where nothing is watched all is quiet. -/
theorem isQuiet_trivial (executor : Executor S) : executor.IsQuiet fun _ _ => True :=
  ⟨fun _ => trivial, fun _ _ => trivial, fun _ _ => trivial, fun _ _ _ _ _ => trivial,
    fun _ => trivial⟩

section Quiet

variable {executor : Executor S} {quiet : S -> S -> Prop} (isQuiet : IsQuiet executor quiet)

include isQuiet

/-- Describing a ticket always answers, and quietly. -/
theorem perform_described (ticketId : String) (live : Option Ticket) (entries : List Entry)
    (state : S) : Exists fun ticket => Exists fun after =>
      (described executor.store ticketId live entries).perform state = (.ok ticket, after) ∧
        quiet state after := by
  cases live with
  | some ticket => exact ⟨_, state, rfl, isQuiet.refl state⟩
  | none =>
      have along := isQuiet.find ticketId state
      refine ⟨((executor.store.find ticketId).perform state).1.toOption.join,
        ((executor.store.find ticketId).perform state).2, ?_, along⟩
      rw [described, Act.perform_attempt_bind]
      rcases ((executor.store.find ticketId).perform state).1 with failure | ticket <;> rfl

/-- Sending a notification always answers, and quietly. -/
theorem perform_notify (ticketId : String) (ticket : Option Ticket) (planned : Planned)
    (state : S) : Exists fun after =>
      (executor.notify ticketId ticket planned).perform state = (.ok (), after) ∧
        quiet state after := by
  rw [notify]
  cases known : executor.dispatch with
  | none => exact ⟨state, rfl, isQuiet.refl state⟩
  | some dispatch =>
      cases message executor.template planned.rule ticketId ticket with
      | none => exact ⟨state, rfl, isQuiet.refl state⟩
      | some text =>
          exact ⟨_, Act.perform_attempt_bind _ _ state,
            isQuiet.dispatch dispatch known planned.action.target text state⟩

theorem perform_notifyAll (ticketId : String) (ticket : Option Ticket)
    (notifications : List Planned) (state : S) : Exists fun after =>
      (executor.notifyAll ticketId ticket notifications).perform state = (.ok (), after) ∧
        quiet state after := by
  induction notifications generalizing state with
  | nil => exact ⟨state, rfl, isQuiet.refl state⟩
  | cons planned rest inductionHypothesis =>
      rcases perform_notify isQuiet ticketId ticket planned state with ⟨between, sent, first⟩
      rcases inductionHypothesis between with ⟨after, others, later⟩
      exact ⟨after, (Act.perform_bind_ok sent).trans others, isQuiet.trans first later⟩

theorem perform_applyNotifications (ticketId : String) (live : Option Ticket)
    (entries : List Entry) (notifications : List Planned) (state : S) : Exists fun after =>
      (executor.applyNotifications ticketId live entries notifications).perform state =
        (.ok (notifications.map (entryOf .applied none)), after) ∧ quiet state after := by
  cases empty : notifications.isEmpty with
  | true =>
      have nothing := List.isEmpty_iff.mp empty
      subst nothing
      exact ⟨state, rfl, isQuiet.refl state⟩
  | false =>
      rcases perform_described isQuiet ticketId live entries state with
        ⟨ticket, between, shown, first⟩
      rcases perform_notifyAll isQuiet ticketId ticket notifications between with
        ⟨after, sent, later⟩
      refine ⟨after, ?_, isQuiet.trans first later⟩
      rw [applyNotifications, empty, if_neg Bool.false_ne_true, Act.perform_bind_ok shown]
      exact Act.perform_bind_ok sent

/-- Groups become executions, each with an id that is drawn for it. -/
theorem perform_draws (ticketId : String) (matchedAt : Instant) (cycleId : Option String)
    (gathered : List Group) (state : S) : Exists fun executions => Exists fun after =>
      (gathered.mapM fun group : Group => do
        let recordId <- Act.draw executor.freshId
        pure (group.execution recordId ticketId matchedAt cycleId)).perform state =
          (.ok executions, after) ∧
      quiet state after ∧
      List.Forall₂ (fun group execution => Exists fun recordId =>
        execution = Group.execution group recordId ticketId matchedAt cycleId)
          gathered executions := by
  induction gathered generalizing state with
  | nil => exact ⟨[], state, rfl, isQuiet.refl state, .nil⟩
  | cons group rest inductionHypothesis =>
      rcases inductionHypothesis (executor.freshId state).2 with
        ⟨executions, after, drawn, later, each⟩
      refine ⟨group.execution (executor.freshId state).1 ticketId matchedAt cycleId :: executions,
        after, ?_, isQuiet.trans (isQuiet.draw state) later, .cons ⟨_, rfl⟩ each⟩
      rw [Act.perform_mapM_cons, bind_assoc, Act.perform_draw_bind, pure_bind, Act.perform_map,
        drawn]
      rfl

/--
Carrying out a plan always answers, with an execution for each group of what became of everything
in the plan, and after the course of its changes all is quiet.
-/
theorem perform_apply_groups (ticketId : String) (plan : Plan) (matchedAt : Instant)
    (cycleId : Option String) (state : S) :
    Exists fun course => Exists fun between => Exists fun executions => Exists fun after =>
      (executor.apply ticketId plan matchedAt cycleId).perform state = (.ok executions, after) ∧
      Went executor.store ticketId plan.mutations course state between ∧ quiet between after ∧
      List.Forall₂ (fun group execution => Exists fun recordId =>
        execution = Group.execution group recordId ticketId matchedAt cycleId)
          (groups (course.entries plan)) executions := by
  rcases perform_applyMutations executor.store ticketId state plan.mutations with
    ⟨course, between, changed, went⟩
  rcases perform_applyNotifications isQuiet ticketId course.live
    (course.changes plan.mutations ++ plan.superseded.map entryOfSuperseded) plan.notifications
      between with ⟨sent, notified, first⟩
  rcases perform_draws isQuiet ticketId matchedAt cycleId (groups (course.entries plan)) sent with
    ⟨executions, after, drawn, later, each⟩
  refine ⟨course, between, executions, after, ?_, went, isQuiet.trans first later, each⟩
  rw [apply, Act.perform_bind_ok changed]
  exact (Act.perform_bind_ok notified).trans drawn

/-- The executions of a plan account for what became of everything in it. -/
theorem perform_apply (ticketId : String) (plan : Plan) (matchedAt : Instant)
    (cycleId : Option String) (state : S) :
    Exists fun course => Exists fun between => Exists fun executions => Exists fun after =>
      (executor.apply ticketId plan matchedAt cycleId).perform state = (.ok executions, after) ∧
      Went executor.store ticketId plan.mutations course state between ∧ quiet between after ∧
      Accounts ticketId matchedAt cycleId (course.entries plan) executions := by
  rcases perform_apply_groups isQuiet ticketId plan matchedAt cycleId state with
    ⟨course, between, executions, after, applied, went, later, each⟩
  exact ⟨course, between, executions, after, applied, went, later, accounts_of_groups each⟩

end Quiet
end Executor
end Triage
