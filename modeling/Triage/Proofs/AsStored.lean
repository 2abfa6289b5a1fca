import Triage.Proofs.Mail

namespace Triage

/-!
# Messages describe the ticket as it is stored

Notifications go out once the changes of a plan took their course, and they describe the ticket as it
is then.  For this it is not read again: it is the ticket as it was read before the write, with what
was written set on it.  Only where the changes did not get as far as a ticket is it read now.

That the two come to the same has to be seen course by course.  What was in place is no part of the
write and is not set either.  What a store refused, or failed at, is not set, and the ticket is as it
was.  What was written is what is set; in memory the stored ticket is made in the same way, and in
the database it is read off a row, where a clean text is read as it was written.
-/

open Executor (Course Entry Went pending settled)

/-! ## Tickets that read alike -/

/-- Two tickets have the same subject and the same reading of every attribute. -/
structure Ticket.ReadsAs (one other : Ticket) : Prop where
  subject : one.subject = other.subject
  reading : forall a, one.reading a = other.reading a

namespace Executor

/-- A template sees nothing else of a ticket. -/
theorem templateValues_of_readsAs {one other : Ticket} (alike : one.ReadsAs other) (rule : Rule)
    (ticketId : String) :
    templateValues rule ticketId (some one) = templateValues rule ticketId (some other) := by
  simp only [templateValues, alike.subject, alike.reading]

/-- So the messages are up to what templates see. -/
theorem messages_congr {S : Type} (executor : Executor S) {ticketId : String}
    {one other : Option Ticket}
    (same : forall rule, templateValues rule ticketId one = templateValues rule ticketId other)
    (notifications : List Planned) :
    executor.messages ticketId one notifications =
      executor.messages ticketId other notifications := by
  refine List.filterMap_congr fun planned _ => ?_
  simp only [outgoing?, message, same]

/-! ## What is set -/

/-- What a course wrote. -/
def Course.values (mutations : List Planned) : Course -> List (Aspect × String)
  | .wrote live (.ok true) => Plan.updates (pending live mutations)
  | _ => []

variable {entries : List Entry} {course : Course}

theorem appliedValues_append (first second : List Entry) :
    appliedValues (first ++ second) = appliedValues first ++ appliedValues second :=
  List.filterMap_append

/-- Of what was not applied nothing is set. -/
theorem appliedValues_of_ne (never : forall entry, entry ∈ entries -> entry.outcome ≠ .applied) :
    appliedValues entries = [] := by
  refine List.filterMap_eq_nil_iff.mpr fun entry member => ?_
  rw [beq_eq_false_iff_ne.mpr (never entry member), if_neg Bool.false_ne_true]

theorem appliedValues_map {outcome : Outcome} (never : outcome ≠ .applied) (error : Option String)
    (planned : List Planned) : appliedValues (planned.map (entryOf outcome error)) = [] := by
  refine appliedValues_of_ne fun entry member => ?_
  rcases List.mem_map.mp member with ⟨source, _, rfl⟩
  exact never

/-- Of what was applied the targets are set. -/
theorem appliedValues_applied (planned : List Planned) :
    appliedValues (planned.map (entryOf .applied none)) =
      (Plan.updates planned).map fun value => (value.1, some value.2) := by
  rw [appliedValues, Plan.updates, List.filterMap_map, List.map_filterMap]
  refine List.filterMap_congr fun planned _ => ?_
  simp only [Function.comp_apply, entryOf, beq_self_eq_true, if_true, Option.map_map]
  rfl

/-- Of all that became of a plan before its notifications, what is set is what was written. -/
theorem Course.appliedValues_eq (plan : Plan) (course : Course) :
    appliedValues (course.changes plan.mutations ++ plan.superseded.map entryOfSuperseded) =
      (course.values plan.mutations).map fun value => (value.1, some value.2) := by
  have lost : appliedValues (plan.superseded.map entryOfSuperseded) = [] := by
    refine appliedValues_of_ne fun entry member => ?_
    rcases List.mem_map.mp member with ⟨superseded, _, rfl⟩
    nofun
  have failed : Outcome.failed ≠ .applied := nofun
  have skipped : Outcome.skippedDuplicate ≠ .applied := nofun
  rw [appliedValues_append, lost, List.append_nil]
  cases course with
  | nothing => rfl
  | unread fault => exact appliedValues_map failed _ _
  | inPlace live => exact appliedValues_map skipped _ _
  | wrote live answer =>
      rcases answer with fault | written
      · exact appliedValues_map failed _ _
      · rw [Course.changes, appliedValues_append, appliedValues_map skipped, List.nil_append]
        cases written with
        | false => exact appliedValues_map skipped _ _
        | true => exact appliedValues_applied _

end Executor

/-! ## What is stored -/

namespace Engine

variable {S : Type} {engine : Engine} {part : Part S World} {store : Tickets.Store S} {world : World}

/-- What an engine writes reads as the ticket with the same texts set. -/
theorem readsAs_written (now : Stamp) (values : List (Aspect × String)) (ticket : Ticket) :
    (ticket.setAll (values.map fun value => (value.1, some value.2))).ReadsAs
      (written now values ticket) := by
  refine ⟨rfl, fun a => ?_⟩
  cases a <;> rfl

/-- A change by somebody who read the ticket just now is made or refused, and the ticket is as it was
written or as it was. -/
theorem held_after_change (calm : world.IsCalm) {id : String} {ticket : Ticket}
    (found : engine.held world id = .ok (some ticket)) {values : List (Aspect × String)}
    (some_ : values ≠ []) (clean : forall value, value ∈ values -> Text.IsClean value.2) :
    Exists fun made => Exists fun after =>
      (engine.tickets.change id (.ofAspects values) (some ticket.updatedAt.instant)).perform world =
        (.ok made, after) ∧ after.IsCalm ∧ Exists fun now => engine.held after id =
          .ok (some (if made then written now values ticket else ticket)) := by
  cases home : engine.home with
  | memory =>
      have known : world.shelf.find? id = some ticket := by
        rw [held, home] at found
        exact Except.ok.inj found
      refine ⟨_, _, perform_change_memory home (Tickets.Updates.read_ofAspects values) _ _ _, calm,
        world.clock, ?_⟩
      rw [held, home]
      change Except.ok (Tickets.Shelf.find? (Tickets.Shelf.change _ _ _ _ _).2 id) = _
      simp only [Tickets.Shelf.change, known]
      cases Tickets.Shelf.isAsExpected (some ticket.updatedAt.instant) ticket with
      | false => exact congrArg Except.ok known
      | true =>
          have same : (written world.clock values ticket).id = ticket.id :=
            Tickets.Shelf.updated_id _ _
          have present : world.shelf.any
              (fun other => other.id == (written world.clock values ticket).id) = true :=
            same ▸ Tickets.Shelf.any_of_find? known
          have put := @Tickets.Shelf.find?_put _ _ id present
          rw [if_pos (same.trans (Tickets.Shelf.id_eq_of_find? known)).symm] at put
          exact congrArg Except.ok put
  | database =>
      rcases perform_change_of_row calm home found some_ with
        ⟨rows, row, database, stored, selected, reads, performed, rest, same⟩
      refine ⟨true, _, performed, rest, .ofInstant world.clock.instant, ?_⟩
      have seen := Tickets.lookUp_rowsAfter selected reads (areClean_map clean) world.clock.instant id
      rw [if_pos rfl] at seen
      rw [held, home]
      change Tickets.lookUp database.data.tickets id = _
      rw [same]
      exact seen

/-- A store that keeps the engine from its tickets makes a change or does not, as it says. -/
theorem Hampers.held_after_writing (hampers : engine.Hampers part store) {id : String}
    {live : Ticket} {plan : Plan} (sound : plan.IsSound)
    (missing : pending live plan.mutations ≠ []) {state after : S}
    {answer : Except Failure Bool} (calm : (part.get state).IsCalm)
    (found : engine.held (part.get state) id = .ok (some live))
    (wrote : (Executor.writing store live (pending live plan.mutations)).perform state =
      (answer, after)) :
    (part.get after).IsCalm ∧ Exists fun stored =>
      engine.held (part.get after) id = .ok (some stored) ∧
      (live.setAll (((Course.wrote live (answer.mapError fun failure =>
        .unwritten failure.report)).values plan.mutations).map fun value =>
          (value.1, some value.2))).ReadsAs stored := by
  have named := id_of_held found
  subst named
  have alike : live.ReadsAs live := ⟨rfl, fun _ => rfl⟩
  rcases held_after_change calm found (Executor.updates_ne_nil sound missing)
    (Executor.isClean_updates sound) with ⟨made, world, changed, still, now, held⟩
  have attempt := hampers.change live.id (.ofAspects (Plan.updates (pending live plan.mutations)))
    (some live.updatedAt.instant) state
  rw [changed, show (store.change live.id (.ofAspects (Plan.updates (pending live plan.mutations)))
    (some live.updatedAt.instant)).perform state = (answer, after) from wrote] at attempt
  rcases attempt with ⟨answered, reached⟩ | ⟨instead, same⟩
  · change answer = .ok made at answered
    change part.get after = world at reached
    rw [answered, reached]
    refine ⟨still, _, held, ?_⟩
    cases made with
    | false => exact alike
    | true => exact readsAs_written now _ live
  · change part.get after = part.get state at same
    rw [same]
    refine ⟨calm, live, found, ?_⟩
    rcases instead with ⟨failure, failed⟩ | refused
    · change answer = _ at failed
      rw [failed]
      exact alike
    · change answer = _ at refused
      rw [refused]
      exact alike

/-- After a course that read a ticket, the ticket as it was read with what was written set on it reads as
the one in store. -/
theorem Hampers.held_of_went (hampers : engine.Hampers part store) {ticketId : String} {plan : Plan}
    (sound : plan.IsSound) {course : Course} {state after : S} (calm : (part.get state).IsCalm)
    (went : Went store ticketId plan.mutations course state after) {live : Ticket}
    (read : course.live = some live) : (part.get after).IsCalm ∧ Exists fun stored =>
      engine.held (part.get after) ticketId = .ok (some stored) ∧
      (live.setAll ((course.values plan.mutations).map fun value =>
        (value.1, some value.2))).ReadsAs stored := by
  have reading {ticket : Ticket} {between : S}
      (reread : (Executor.reread store ticketId).perform state = (.ok (.ok ticket), between)) :
      (part.get between).IsCalm ∧
        engine.held (part.get between) ticketId = .ok (some ticket) := by
    have found := Executor.find_of_reread store ticketId state reread
    have unseen := hampers.find_unseen ticketId state
    rw [found] at unseen
    rcases unseen calm with ⟨still, same⟩
    refine ⟨still, ?_⟩
    rw [held_of_stock (same_of_standing same).2.1]
    exact hampers.held_of_find calm found
  cases went with
  | nothing => cases read
  | unread => cases read
  | inPlace reread =>
      cases read
      rcases reading reread with ⟨still, held⟩
      exact ⟨still, live, held, rfl, fun _ => rfl⟩
  | wrote reread missing wrote =>
      cases read
      rcases reading reread with ⟨still, held⟩
      rw [Executor.perform_write] at wrote
      cases wrote
      exact hampers.held_after_writing sound missing still held rfl

end Engine

/-! ## What is described -/

/-- From one state to another a plan was carried out, by way of one where its changes were through:
nothing went out before that, and after it the messages about a ticket as it is shown, which reads as
whatever the store finds then. -/
structure Executor.DescribesAsStored {S : Type} (executor : Executor S)
    (mail : S -> List (String × String)) (ticketId : String) (plan : Plan) (state between after : S)
    (shown : Option Ticket) : Prop where
  withheld : mail between = mail state
  sent : mail after = mail between ++ executor.messages ticketId shown plan.notifications
  asStored : forall stored, ((executor.store.find ticketId).perform between).1 = .ok (some stored) ->
    forall rule, templateValues rule ticketId shown = templateValues rule ticketId (some stored)

namespace Executor

variable {S : Type} {store : Tickets.Store S} {ticketId : String} {entries : List Entry}
  {state after : S} {shown : Option Ticket}

/-- Without a ticket that was read before, the one that is found is described. -/
theorem shown_of_find (described_ : (described store ticketId none entries).perform state =
    (.ok shown, after)) {stored : Ticket}
    (found : ((store.find ticketId).perform state).1 = .ok (some stored)) : shown = some stored := by
  rw [described, Act.perform_attempt_bind, found] at described_
  cases described_
  rfl

end Executor

namespace Engine

variable {S : Type} {engine : Engine} {part : Part S World}

/-- Carrying out a plan of the resolver through a store of an engine always answers, whatever comes of
reading and writing.  No notification goes out before the changes are through, and if the store finds
the ticket then, every template sees the ticket that it finds. -/
theorem Hampers.describes_as_stored {executor : Executor S} {mail : S -> List (String × String)}
    (hampers : engine.Hampers part executor.store) (fills : executor.Fills mail)
    {firing holding : List Rule}
    (clean : forall rule, rule ∈ firing ∨ rule ∈ holding -> forall action,
      action ∈ rule.actions -> action.IsClean)
    {state : S} (calm : (part.get state).IsCalm) (plannedFor ticketId : String)
    (matchedAt : Instant) (cycleId : Option String) :
    Exists fun live => Exists fun changes => Exists fun between => Exists fun executions =>
      Exists fun after => Exists fun shown => Exists fun later =>
      (Executor.applyMutations executor.store ticketId
        (Plan.resolve plannedFor firing holding).mutations).perform state =
          (.ok (live, changes), between) ∧
      (Executor.described executor.store ticketId live (changes ++
        (Plan.resolve plannedFor firing holding).superseded.map
          Executor.entryOfSuperseded)).perform between = (.ok shown, later) ∧
      (executor.apply ticketId (Plan.resolve plannedFor firing holding) matchedAt cycleId).perform
        state = (.ok executions, after) ∧
      executor.DescribesAsStored mail ticketId (Plan.resolve plannedFor firing holding) state between
        after shown := by
  have sound : (Plan.resolve plannedFor firing holding).IsSound := Plan.resolve_isSound clean
  generalize Plan.resolve plannedFor firing holding = plan at sound
  rcases Executor.perform_applyMutations executor.store ticketId state plan.mutations with
    ⟨course, between, changed, went⟩
  rcases Executor.perform_described executor.isQuiet_trivial ticketId course.live
    (course.changes plan.mutations ++ plan.superseded.map Executor.entryOfSuperseded) between with
    ⟨shown, later, described, _⟩
  rcases Executor.perform_apply_groups executor.isQuiet_trivial ticketId plan matchedAt cycleId state
    with ⟨_, _, executions, after, applied, _⟩
  have withheld := fills.applyMutations ticketId plan.mutations state
  have sent := fills.apply_of_described changed described matchedAt cycleId
  rw [changed] at withheld
  rw [applied] at sent
  refine ⟨_, _, between, executions, after, shown, later, changed, described, applied, withheld,
    sent.trans (congrArg (· ++ _) withheld.symm), fun stored found rule => ?_⟩
  cases read : course.live with
  | none =>
      rw [read] at described
      rw [Executor.shown_of_find described found]
  | some live =>
      rw [read, Executor.described, Course.appliedValues_eq] at described
      cases described
      rcases hampers.held_of_went sound calm went read with ⟨still, kept, held, alike⟩
      have found_ := hampers.held_of_find still (Prod.ext found rfl)
      cases held.symm.trans found_
      exact Executor.templateValues_of_readsAs alike rule ticketId

end Engine

namespace Sample

/-- What the third rule wants of the ticket, and whom it tells. -/
theorem plan_of_later :
    (Plan.resolve ticket.id [later] []).mutations = [⟨later, ⟨.updatePriority, "Medium"⟩⟩] ∧
    (Plan.resolve ticket.id [later] []).notifications =
      [⟨later, ⟨.sendNotification, "front desk"⟩⟩] := by
  have ordered : Rule.ordered [later] = [later] := List.mergeSort_singleton later
  simp only [Plan.resolve, ordered, List.filter_nil, List.append_nil]
  exact ⟨rfl, rfl⟩

/-- The message of a rule that changes the priority as well is about the changed ticket. -/
theorem message_is_about_changed_ticket : Exists fun executions => Exists fun after =>
    ((engine.executor (Part.whole World) engine.tickets).apply ticket.id
      (Plan.resolve ticket.id [later] []) noon.instant none).perform (world []) =
        (.ok executions, after) ∧
    after.outbox = (engine.executor (Part.whole World) engine.tickets).messages ticket.id
      (some { ticket with priority := some "Medium" }) [⟨later, ⟨.sendNotification, "front desk"⟩⟩] := by
  have hampers := engine.tickets_hampers
  have clean (rule : Rule) (planned : rule ∈ [Sample.later] ∨ rule ∈ []) :
      forall action, action ∈ rule.actions -> action.IsClean := by
    rcases planned with firing | holding
    · exact List.mem_singleton.mp firing ▸ later_isSound.actions
    · cases holding
  have calm : ((Part.whole World).get (world [])).IsCalm := (isReady_world []).calm
  rcases hampers.describes_as_stored (hampers.fills Part.whole_isLawful) clean calm ticket.id
    ticket.id noon.instant none with
    ⟨live, changes, between, executions, after, shown, _, changed, _, applied, describes⟩
  have reached : (Executor.applyMutations engine.tickets ticket.id
      [⟨Sample.later, ⟨.updatePriority, "Medium"⟩⟩]).perform (world []) =
        (.ok (some ticket, [⟨Sample.later, ⟨.updatePriority, "Medium"⟩, .applied, none, none⟩]),
          { world [] with shelf := [{ ticket with priority := some "Medium" }] }) := rfl
  rw [plan_of_later.1] at changed
  rcases Prod.mk.inj (changed.symm.trans reached) with ⟨_, rfl⟩
  have found : ((engine.tickets.find ticket.id).perform
      { world [] with shelf := [{ ticket with priority := some "Medium" }] }).1 =
        .ok (some { ticket with priority := some "Medium" }) := rfl
  have same := describes.asStored _ found
  have sent := describes.sent
  have nothing : Engine.outboxIn (Part.whole World) (world []) = [] := rfl
  rw [describes.withheld, nothing, List.nil_append, plan_of_later.2] at sent
  exact ⟨executions, after, applied, sent.trans (Executor.messages_congr _ same _)⟩

end Sample
end Triage
