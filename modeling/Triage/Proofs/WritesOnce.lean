import Triage.Proofs.Beginning
import Triage.Proofs.Recorded
import Triage.Proofs.Twins

namespace Triage

/-!
# What is recorded as applied was written

Carrying out a plan asks the store for one change or for none.  The change is of exactly what the
ticket does not read of the plan, on condition that the ticket is still as it was read, and what the
store answers decides what is recorded.

Of the store it is assumed that a change is made as a whole or not at all, and that it says which:
only a change that it says it made may have touched its contents.  It may find the ticket or not,
refuse the change, or fail at either; in each case there are executions, and unless the change was
made, the contents are those of before.

To say how often a store is asked for a change, and for which, an executor is given a store that
keeps a list of the changes that it is asked for, each with its answer.  Nothing else is different:
whether or not there is a list, a plan is carried out in the same way and comes to the same.
-/

/-- A state, and the changes that were asked for. -/
structure Watched (S : Type) where
  state : S
  changes : List Tickets.Change

namespace Watched

variable {S A : Type}

/-- The state behind the list. -/
def part : Part (Watched S) S := ⟨Watched.state, fun state watched => { watched with state }⟩

/-- Adds a change to the list. -/
def note (change : Tickets.Change) (watched : Watched S) : Watched S :=
  { watched with changes := watched.changes ++ [change] }

/-- No change was asked for, and what a view shows of the state is the same. -/
def Still {V : Type} (view : S -> V) (before after : Watched S) : Prop :=
  after.changes = before.changes ∧ view after.state = view before.state

end Watched

/-- A store that keeps a list of the changes that it is asked for. -/
def Tickets.Store.watched {S : Type} (store : Store S) : Store (Watched S) :=
  { store.within Watched.part with
    change := fun id updates expected => do
      let answer <- (Watched.part.perform (store.change id updates expected)).attempt
      Act.change (Watched.note ⟨id, updates, expected, answer⟩)
      Act.ofResult answer }

/-- An executor whose store keeps such a list. -/
def Executor.watched {S : Type} (executor : Executor S) : Executor (Watched S) where
  store := executor.store.watched
  dispatch := executor.dispatch.map fun dispatch target text =>
    Watched.part.perform (dispatch target text)
  template := executor.template
  freshId watched :=
    let (id, state) := executor.freshId watched.state
    (id, { watched with state })

/-! ## Acts that come to the same -/

namespace Act.AreTwins

variable {S R A B V : Type} {view : S -> V} {sight : R -> V}

theorem pure (a : A) : AreTwins view sight (Pure.pure a : Act S A) (Pure.pure a) :=
  fun _ _ alike => ⟨rfl, alike⟩

theorem attempt {act : Act S A} {twin : Act R A} (same : AreTwins view sight act twin) :
    AreTwins view sight act.attempt twin.attempt :=
  fun state other alike =>
    ⟨congrArg Except.ok (same state other alike).1, (same state other alike).2⟩

theorem map (f : A -> B) {act : Act S A} {twin : Act R A} (same : AreTwins view sight act twin) :
    AreTwins view sight (f <$> act) (f <$> twin) := by
  intro state other alike
  rw [perform_map, perform_map]
  exact ⟨congrArg (Except.map f) (same state other alike).1, (same state other alike).2⟩

theorem bind {act : Act S A} {twin : Act R A} {next : A -> Act S B} {later : A -> Act R B}
    (same : AreTwins view sight act twin)
    (goesOn : forall a, AreTwins view sight (next a) (later a)) :
    AreTwins view sight (act >>= next) (twin >>= later) := by
  intro state other alike
  have first := same state other alike
  rcases performed : act.perform state with ⟨result, after⟩
  rcases performed_ : twin.perform other with ⟨result_, after_⟩
  rw [performed, performed_] at first
  rcases first with ⟨rfl, between⟩
  cases result with
  | error failure =>
      rw [perform_bind_error performed, perform_bind_error performed_]
      exact ⟨rfl, between⟩
  | ok a =>
      rw [perform_bind_ok performed, perform_bind_ok performed_]
      exact goesOn a after after_ between

theorem mapM {step : A -> Act S B} {twin : A -> Act R B}
    (same : forall a, AreTwins view sight (step a) (twin a)) (items : List A) :
    AreTwins view sight (items.mapM step) (items.mapM twin) := by
  induction items with
  | nil => exact pure []
  | cons a rest inductionHypothesis =>
      intro state other alike
      rw [perform_mapM_cons, perform_mapM_cons]
      exact (same a).bind (fun b => inductionHypothesis.map (List.cons b)) state other alike

end Act.AreTwins

/-! ## Executors that come to the same -/

/-- Each operation of two executors comes to the same from states that look alike. -/
structure Executor.AreTwins {S R V : Type} (view : S -> V) (sight : R -> V)
    (executor : Executor S) (twin : Executor R) : Prop where
  find : forall id,
    Act.AreTwins view sight (executor.store.find id) (twin.store.find id)
  change : forall id updates expected, Act.AreTwins view sight
    (executor.store.change id updates expected) (twin.store.change id updates expected)
  dispatch : Option.Rel (fun send resend => forall target text,
    Act.AreTwins view sight (send target text) (resend target text))
    executor.dispatch twin.dispatch
  template : executor.template = twin.template
  draw : Act.AreTwins view sight (Act.draw executor.freshId) (Act.draw twin.freshId)

namespace Executor.AreTwins

variable {S R V : Type} {view : S -> V} {sight : R -> V} {executor : Executor S}
  {twin : Executor R} (twins : executor.AreTwins view sight twin)

include twins

theorem reread (ticketId : String) : Act.AreTwins view sight
    (reread executor.store ticketId) (reread twin.store ticketId) := by
  refine (twins.find ticketId).attempt.bind fun answer => ?_
  rcases answer with failure | found | live <;> exact .pure _

theorem write (live : Ticket) (planned : List Planned) : Act.AreTwins view sight
    (write executor.store live planned) (write twin.store live planned) := by
  refine (twins.change _ _ _).attempt.bind fun answer => ?_
  cases answer <;> exact .pure _

theorem mutate (live : Ticket) (mutations : List Planned) : Act.AreTwins view sight
    (mutate executor.store live mutations) (mutate twin.store live mutations) := by
  simp only [Executor.mutate]
  split
  · exact .pure _
  · refine (twins.write live _).bind fun answer => ?_
    cases answer <;> exact .pure _

theorem applyMutations (ticketId : String) (mutations : List Planned) : Act.AreTwins view sight
    (applyMutations executor.store ticketId mutations)
    (applyMutations twin.store ticketId mutations) := by
  simp only [Executor.applyMutations]
  split
  · exact .pure _
  · refine (twins.reread ticketId).bind fun answer => ?_
    cases answer with
    | error fault => exact .pure _
    | ok live =>
        refine (twins.mutate live mutations).bind fun made => ?_
        cases made <;> exact .pure _

theorem described (ticketId : String) (live : Option Ticket) (entries : List Entry) :
    Act.AreTwins view sight (described executor.store ticketId live entries)
      (described twin.store ticketId live entries) := by
  cases live with
  | some ticket => exact .pure _
  | none =>
      refine (twins.find ticketId).attempt.bind fun answer => ?_
      cases answer <;> exact .pure _

theorem notify (ticketId : String) (ticket : Option Ticket) (planned : Planned) :
    Act.AreTwins view sight (executor.notify ticketId ticket planned)
      (twin.notify ticketId ticket planned) := by
  have sends := twins.dispatch
  rw [Executor.notify, Executor.notify, twins.template]
  cases sender : executor.dispatch with
  | none =>
      rw [sender] at sends
      cases resends : twin.dispatch with
      | none => exact .pure _
      | some resend => rw [resends] at sends; cases sends
  | some send =>
      rw [sender] at sends
      cases resends : twin.dispatch with
      | none => rw [resends] at sends; cases sends
      | some resend =>
          rw [resends] at sends
          cases sends with
          | some same =>
              cases message twin.template planned.rule ticketId ticket with
              | none => exact .pure _
              | some text => exact (same _ text).attempt.bind fun _ => .pure _

theorem notifyAll (ticketId : String) (ticket : Option Ticket) (notifications : List Planned) :
    Act.AreTwins view sight (executor.notifyAll ticketId ticket notifications)
      (twin.notifyAll ticketId ticket notifications) := by
  induction notifications with
  | nil => exact .pure _
  | cons planned rest inductionHypothesis =>
      exact (twins.notify ticketId ticket planned).bind fun _ => inductionHypothesis

theorem applyNotifications (ticketId : String) (live : Option Ticket) (entries : List Entry)
    (notifications : List Planned) : Act.AreTwins view sight
      (executor.applyNotifications ticketId live entries notifications)
      (twin.applyNotifications ticketId live entries notifications) := by
  simp only [Executor.applyNotifications]
  split
  · exact .pure _
  · exact (twins.described ticketId live entries).bind fun ticket =>
      (twins.notifyAll ticketId ticket notifications).bind fun _ => .pure _

/-- A plan is carried out in the same way by both. -/
theorem apply (ticketId : String) (plan : Plan) (matchedAt : Instant) (cycleId : Option String) :
    Act.AreTwins view sight (executor.apply ticketId plan matchedAt cycleId)
      (twin.apply ticketId plan matchedAt cycleId) :=
  (twins.applyMutations ticketId plan.mutations).bind fun changed =>
    (twins.applyNotifications ticketId changed.1 _ plan.notifications).bind fun _ =>
      .mapM (fun _ => twins.draw.bind fun _ => .pure _) _

end Executor.AreTwins

/-- With a list of the changes that it asks for or without one, an executor comes to the same. -/
theorem Executor.watched_areTwins {S : Type} (executor : Executor S) :
    executor.watched.AreTwins Watched.state id executor := by
  have same {A : Type} (act : Act S A) :
      Act.AreTwins Watched.state id (Watched.part.perform act) act := by
    rintro state _ rfl
    exact ⟨rfl, rfl⟩
  refine ⟨fun ticketId => same _, ?_, ?_, rfl, ?_⟩
  · rintro ticketId updates expected state _ rfl
    exact ⟨rfl, rfl⟩
  · have sender : executor.watched.dispatch = executor.dispatch.map fun dispatch target text =>
        Watched.part.perform (dispatch target text) := rfl
    rw [sender]
    cases executor.dispatch with
    | none => exact .none
    | some dispatch => exact .some fun target text => same _
  · rintro state _ rfl
    exact ⟨rfl, rfl⟩

/-! ## Carrying out a plan -/

namespace Executor

section Run

variable {S C : Type} {executor : Executor S} {contents : S -> C}
  {writes : String -> Tickets.Updates -> C -> C -> Prop} {state : S} {ticketId : String}

/-- The store makes a change and says so, or it leaves its contents as they were; and nothing else
that an executor does gets at them. -/
structure IsAtomic (executor : Executor S) (contents : S -> C)
    (writes : String -> Tickets.Updates -> C -> C -> Prop) : Prop where
  find : forall id, (executor.store.find id).Keeps contents
  dispatch : forall dispatch, executor.dispatch = some dispatch ->
    forall target text, (dispatch target text).Keeps contents
  draw : (Act.draw executor.freshId).Keeps contents
  refused : forall id updates expected state,
    ((executor.store.change id updates expected).perform state).1 ≠ .ok true ->
      contents ((executor.store.change id updates expected).perform state).2 = contents state
  written : forall id updates expected state,
    ((executor.store.change id updates expected).perform state).1 = .ok true ->
      writes id updates (contents state)
        (contents ((executor.store.change id updates expected).perform state).2)

variable (atomic : executor.IsAtomic contents writes)

include atomic

/-- All but the one change is quiet, with a list as without. -/
theorem IsAtomic.isQuiet : executor.watched.IsQuiet (Watched.Still contents) := by
  refine ⟨fun _ => ⟨rfl, rfl⟩, fun one two => ⟨two.1.trans one.1, two.2.trans one.2⟩, ?_, ?_, ?_⟩
  · exact fun id watched => ⟨rfl, atomic.find id watched.state⟩
  · intro dispatch known target text watched
    rcases Option.map_eq_some_iff.mp known with ⟨plain, sends, rfl⟩
    exact ⟨rfl, atomic.dispatch plain sends target text watched.state⟩
  · exact fun watched => ⟨rfl, atomic.draw watched.state⟩

/-- The changes of a plan are asked for by their course, and the contents are what was written. -/
theorem IsAtomic.asked {mutations : List Planned} {course : Course} {after : Watched S}
    (went : Went executor.watched.store ticketId mutations course ⟨state, []⟩ after) :
    course.Asked mutations ((executor.store.find ticketId).perform state).1 after.changes ∧
      (forall change, change ∈ after.changes -> change.answer =
        ((executor.store.change change.ticketId change.updates change.expected).perform
          ((executor.store.find ticketId).perform state).2).1) ∧
      ((forall change, change ∈ after.changes -> change.answer ≠ .ok true) ->
        contents after.state = contents state) ∧
      forall change, change ∈ after.changes -> change.answer = .ok true ->
        writes change.ticketId change.updates (contents state) (contents after.state) := by
  have find (watched : Watched S) : (executor.watched.store.find ticketId).perform watched =
      (((executor.store.find ticketId).perform watched.state).1,
        { watched with state := ((executor.store.find ticketId).perform watched.state).2 }) := rfl
  have kept : contents ((executor.store.find ticketId).perform state).2 = contents state :=
    atomic.find ticketId state
  cases went with
  | nothing none_ =>
      exact ⟨.nothing none_, List.forall_mem_nil _, fun _ => rfl, List.forall_mem_nil _⟩
  | unread read =>
      rw [reread, Act.perform_attempt_bind, find] at read
      rcases held : ((executor.store.find ticketId).perform state).1 with failure | found | live
      · rw [held] at read
        cases read
        exact ⟨.unreadable, List.forall_mem_nil _, fun _ => kept, List.forall_mem_nil _⟩
      · rw [held] at read
        cases read
        exact ⟨.gone, List.forall_mem_nil _, fun _ => kept, List.forall_mem_nil _⟩
      · rw [held] at read
        cases read
  | @inPlace live _ _ read none_ =>
      have found := find_of_reread _ _ _ read
      rw [find] at found
      rcases Prod.mk.inj found with ⟨held, rfl⟩
      rw [held]
      exact ⟨.inPlace none_, List.forall_mem_nil _, fun _ => kept, List.forall_mem_nil _⟩
  | @wrote live answer _ between _ read some_ wrote =>
      have found := find_of_reread _ _ _ read
      rw [find] at found
      rcases Prod.mk.inj found with ⟨held, rfl⟩
      rw [perform_write] at wrote
      rcases Prod.mk.inj wrote with ⟨answered, rfl⟩
      cases answered
      rw [held]
      refine ⟨.wrote some_, ?_, ?_, ?_⟩
      · intro change among
        cases List.mem_singleton.mp among
        rfl
      · intro unmade
        exact (atomic.refused _ _ _ _ (unmade _ (List.mem_singleton_self _))).trans kept
      · intro change among made
        cases List.mem_singleton.mp among
        have written := atomic.written live.id _ _ ((executor.store.find ticketId).perform state).2
          made
        rw [kept] at written
        exact written

/--
Carrying out a plan of the resolver always answers.  With a list of what the store is asked to
change, it comes to the same, and the list has one change or none: that of exactly the planned
targets that the ticket did not read when it was read again, on condition that it is still as it
was read.  What is recorded of the planned changes is what came of that change, or of reading the
ticket.  Unless the store made the change, it has the contents that it had.
-/
theorem writes_once_or_not_at_all (plannedFor : String) (firing holding : List Rule)
    (ticketId : String) (matchedAt : Instant) (cycleId : Option String) (state : S) :
    Exists fun executions => Exists fun after => Exists fun changes =>
      (executor.apply ticketId (Plan.resolve plannedFor firing holding) matchedAt cycleId).perform
        state = (.ok executions, after) ∧
      (executor.watched.apply ticketId (Plan.resolve plannedFor firing holding) matchedAt
        cycleId).perform ⟨state, []⟩ = (.ok executions, ⟨after, changes⟩) ∧
      WritesOnce (Plan.resolve plannedFor firing holding).mutations
        ((executor.store.find ticketId).perform state).1 changes executions ∧
      (forall change, change ∈ changes -> change.answer =
        ((executor.store.change change.ticketId change.updates change.expected).perform
          ((executor.store.find ticketId).perform state).2).1) ∧
      ((forall change, change ∈ changes -> change.answer ≠ .ok true) ->
        contents after = contents state) ∧
      forall change, change ∈ changes -> change.answer = .ok true ->
        writes change.ticketId change.updates (contents state) (contents after) := by
  generalize made : Plan.resolve plannedFor firing holding = plan
  have apart : Planned.AreApart plan.mutations := made ▸ Planned.areApart_resolve _ _ _
  have plain : forall planned, planned ∈ plan.notifications -> planned.action.aspect? = none :=
    fun planned member => (Plan.mem_rules_of_notification (made ▸ member)).2.2
  rcases perform_apply_groups atomic.isQuiet ticketId plan matchedAt cycleId ⟨state, []⟩ with
    ⟨course, between, executions, ⟨after, changes⟩, applied, went, ⟨same, still⟩, each⟩
  rcases atomic.asked went with ⟨asked, answered, unchanged, changed⟩
  have listed : changes = between.changes := same
  have kept : contents after = contents between.state := still
  have twin := executor.watched_areTwins.apply ticketId plan matchedAt cycleId ⟨state, []⟩ state rfl
  rw [applied] at twin
  rw [<- listed] at asked answered unchanged changed
  rw [<- kept] at unchanged changed
  exact ⟨executions, after, changes, Prod.ext twin.1.symm twin.2.symm, applied,
    asked.writesOnce apart plain each, answered, unchanged, changed⟩

end Run
end Executor

/-! ## Tickets in memory -/

namespace Tickets.Shelf

variable {now : Stamp} {id : String} {values : List (Aspect × Option String)}
  {expected : Option Instant} {shelf : Shelf}

/-- A change is made as it would be without a condition, or the shelf is left as it was. -/
theorem change_made_or_refused :
    change now id values expected shelf = (true, (change now id values none shelf).2) ∨
      change now id values expected shelf = (false, shelf) := by
  cases found : shelf.find? id with
  | none => exact Or.inr (by simp only [change, found])
  | some ticket =>
      have free : isAsExpected none ticket = true := rfl
      cases as_ : isAsExpected expected ticket with
      | true => exact Or.inl (by simp only [change, found, as_, free, if_true])
      | false => exact Or.inr (by simp only [change, found, as_, Bool.false_eq_true, if_false])

end Tickets.Shelf

/-- The tickets in memory, and the time. -/
def World.shelved (world : World) : Stamp × Tickets.Shelf := (world.clock, world.shelf)

namespace Engine

variable {S : Type} {engine : Engine} {part : Part S World} {store : Tickets.Store S}

/-- Updates of a ticket in memory were made. -/
def UpdatesShelf (id : String) (updates : Tickets.Updates) (before after : Stamp × Tickets.Shelf) :
    Prop := Exists fun values => updates.read = .ok values ∧
  after = (before.1, (Tickets.Shelf.change before.1 id values none before.2).2)

/-- A change of tickets in memory is made, or it leaves them as they are. -/
theorem Hampers.change_shelved (hampers : engine.Hampers part store)
    (memory : engine.home = .memory) (id : String) (updates : Tickets.Updates)
    (expected : Option Instant) (state : S) :
    (((store.change id updates expected).perform state).1 = .ok true ∧
        UpdatesShelf id updates (part.get state).shelved
          (part.get ((store.change id updates expected).perform state).2).shelved) ∨
      (((store.change id updates expected).perform state).1 ≠ .ok true ∧
        (part.get ((store.change id updates expected).perform state).2).shelved =
          (part.get state).shelved) := by
  rcases hampers.change id updates expected state with ⟨answered, reached⟩ | ⟨instead, same⟩
  · rw [answered, reached]
    cases read : updates.read with
    | error failure =>
        rw [perform_change_unread read]
        exact Or.inr ⟨nofun, rfl⟩
    | ok values =>
        rw [perform_change_memory memory read]
        rcases @Tickets.Shelf.change_made_or_refused (part.get state).clock id values expected
          (part.get state).shelf with made | refused
        · rw [made]
          exact Or.inl ⟨rfl, values, read, rfl⟩
        · rw [refused]
          exact Or.inr ⟨nofun, rfl⟩
  · refine Or.inr ⟨fun made => ?_, congrArg World.shelved same⟩
    rw [made] at instead
    rcases instead with ⟨_, failed⟩ | refused
    · cases failed
    · cases refused

/-- Through whatever store an engine reaches its tickets in memory, it makes changes of them or
leaves them as they are. -/
theorem Hampers.isAtomic (hampers : engine.Hampers part store) (lawful : part.IsLawful)
    (memory : engine.home = .memory) :
    (engine.executor part store).IsAtomic (fun state => (part.get state).shelved)
      UpdatesShelf := by
  refine ⟨fun id state => ?_, ?_, fun state => ?_, ?_, ?_⟩
  · have still : ((engine.tickets.find id).perform (part.get state)).2 = part.get state := by
      rw [tickets, memory]
      rfl
    have same : part.get ((store.find id).perform state).2 = part.get state := by
      rcases hampers.find id state with ⟨_, reached⟩ | ⟨_, same⟩
      · exact reached.trans still
      · exact same
    exact congrArg World.shelved same
  · intro dispatch known target text state
    unfold executor at known
    split at known
    next =>
        cases known
        have sent : part.get ((part.perform (World.dispatch target text)).perform state).2 =
            ((World.dispatch target text).perform (part.get state)).2 := lawful.get_set _ _
        have seen := congrArg World.shelved sent
        exact seen
    next => cases known
  · have drawn : part.get ((Act.draw (engine.executor part store).freshId).perform state).2 =
        (World.drawRecordId (part.get state)).2 := lawful.get_set _ _
    have seen := congrArg World.shelved drawn
    exact seen
  · intro id updates expected state refused
    rcases hampers.change_shelved memory id updates expected state with
      ⟨made, _⟩ | ⟨_, same⟩
    · exact absurd made refused
    · exact same
  · intro id updates expected state made
    rcases hampers.change_shelved memory id updates expected state with
      ⟨_, updated⟩ | ⟨unmade, _⟩
    · exact updated
    · exact absurd made unmade

end Engine

namespace Sample

/-- An executor of the small engine whose store is told by a script when to fail. -/
def drilled : Executor (Drill.Stage World) :=
  engine.executor Drill.world engine.drilledTickets

/-- One rule and one ticket, with a store that fails the first change it is asked for. -/
def locked : Drill.Stage World :=
  ⟨world [early], [⟨.changeTicket, .fails (.plain .badValue "database is locked"), none, some 1⟩]⟩

/-- What the rule wants of the ticket. -/
def lift : Planned := ⟨early, ⟨.updatePriority, "High"⟩⟩

theorem mutations_of_early : (Plan.resolve ticket.id [early] []).mutations = [lift] := by
  have ordered : Rule.ordered [early] = [early] := List.mergeSort_singleton early
  simp only [Plan.resolve, ordered, List.filter_nil, List.append_nil]
  rfl

/-- A failed change of the ticket is recorded as failed, with the text of the failure, and leaves
the ticket as it is. -/
theorem failed_change_is_recorded :
    Exists fun executions => Exists fun after => Exists fun change =>
      (drilled.watched.apply ticket.id (Plan.resolve ticket.id [early] []) noon.instant
        none).perform ⟨locked, []⟩ = (.ok executions, ⟨after, [change]⟩) ∧
      change.IsOf ticket [lift] ∧
      lift.IsRecorded executions .failed (some "Ticket write failed: database is locked") ∧
      after.world.shelved = (noon, [ticket]) := by
  have atomic := engine.drilledTickets_hampers.isAtomic Drill.world_isLawful rfl
  rcases Executor.writes_once_or_not_at_all atomic ticket.id [early] [] ticket.id noon.instant none
    locked with ⟨executions, after, changes, _, watched, once, answered, unchanged, _⟩
  have held : ((engine.drilledTickets.find ticket.id).perform locked).1 = .ok (some ticket) := rfl
  change Executor.WritesOnce _ ((engine.drilledTickets.find ticket.id).perform locked).1 _ _ at once
  rw [held, mutations_of_early] at once
  have differs : lift.Differs ticket := ⟨.priority, rfl, by decide⟩
  have some_ : changes ≠ [] :=
    once.asked.mpr ⟨ticket, rfl, lift, List.mem_singleton_self _, differs⟩
  rcases List.length_eq_one_iff.mp
    (Nat.le_antisymm once.once (List.length_pos_of_ne_nil some_)) with ⟨change, rfl⟩
  have among : change ∈ [change] := List.mem_singleton_self change
  have answer : change.answer = .error (.plain .badValue "database is locked") :=
    answered change among
  rcases once.exact change among with ⟨_, ⟨⟩, isOf⟩
  have includes : change.Includes lift :=
    ⟨_, rfl, (isOf.updates _).mpr ⟨lift, List.mem_singleton_self _, differs, rfl⟩⟩
  have recorded := once.recorded change among lift (List.mem_singleton_self _) includes
  rw [Tickets.Change.outcome, Tickets.Change.reason?, answer] at recorded
  refine ⟨executions, after, change, watched, isOf, recorded, unchanged fun other member => ?_⟩
  rw [List.mem_singleton.mp member, answer]
  intro made
  cases made

end Sample
end Triage
