import Triage.Proofs.Steps
import Triage.Proofs.Untouched

namespace Triage

/-!
# One ticket at two workplaces

The same job can be done at two workplaces, in two worlds that have the same slot for its ticket at
the same time, and whatever else they have.  As long as the operations on this ticket behave alike
at both, the two jobs go on in lockstep: they find the same ticket, make the same changes, and have
the same executions but for the ids drawn for them.

Messages are sent in lockstep too, but nothing depends on whether they arrive.  Nor does anything
depend on which executions can be noted in the trail.
-/

open Cycle (Job Done)

/-- Executions about a ticket that are the same but for their ids. -/
structure Execution.AreTwins (id : String) (executions twins : List Execution) : Prop where
  same : executions.map Execution.anonymous = twins.map Execution.anonymous
  about : forall execution, execution ∈ executions -> execution.ticketId = id

/-- Two results are the same failure, or answers that are related. -/
inductive EndAlike {E A B : Type} (related : A -> B -> Prop) : Except E A -> Except E B -> Prop
  | failed (failure : E) : EndAlike related (.error failure) (.error failure)
  | answered {a : A} {b : B} : related a b -> EndAlike related (.ok a) (.ok b)

/-- What came of a job at two places is the same but for ids and for what could not be noted. -/
structure Cycle.Done.IsTwin (done twin : Done) : Prop where
  ticketId : done.ticketId = twin.ticketId
  executions : done.executions.map Execution.anonymous = twin.executions.map Execution.anonymous

/-! ## Operations that behave alike -/

/-- From states that look alike, two acts come to the same, and look alike after it. -/
def Act.AreTwins {S R A V : Type} (view : S -> V) (sight : R -> V) (act : Act S A)
    (twin : Act R A) : Prop :=
  forall state other, view state = sight other ->
    (act.perform state).1 = (twin.perform other).1 ∧
      view (act.perform state).2 = sight (twin.perform other).2

/-- At a state an act on a part comes to what an act of the world comes to. -/
def Part.Does {S A : Type} (part : Part S World) (own : Act World A) (act : Act S A) (state : S) :
    Prop :=
  (act.perform state).1 = (own.perform (part.get state)).1 ∧
    part.get (act.perform state).2 = (own.perform (part.get state)).2

namespace Workplace

variable {S R V A : Type}

/-- From states that look alike, two operations both reach the engine, or both come to the same
without it, and look alike after it. -/
def ReachAlike (place : Workplace S) (other : Workplace R) (view : S -> V) (sight : R -> V)
    (own : Act World A) (act : Act S A) (twin : Act R A) : Prop :=
  forall state elsewhere, view state = sight elsewhere ->
    view (act.perform state).2 = sight (twin.perform elsewhere).2 ∧
      (place.part.Does own act state ∧ other.part.Does own twin elsewhere ∨
        (act.perform state).1 = (twin.perform elsewhere).1 ∧
          place.part.get (act.perform state).2 = place.part.get state ∧
          other.part.get (twin.perform elsewhere).2 = other.part.get elsewhere)

/-- The operations on the ticket of an id behave alike at two workplaces. -/
structure Meets (place : Workplace S) (other : Workplace R) (engine : Engine) (id : String)
    (view : S -> V) (sight : R -> V) : Prop where
  sortOut : forall rules ticket now, ticket.id = id ->
    Act.AreTwins view sight (place.sortOut rules ticket now) (other.sortOut rules ticket now)
  resolve : forall ticket matching, ticket.id = id ->
    Act.AreTwins view sight (place.resolve ticket matching) (other.resolve ticket matching)
  enter : Act.AreTwins view sight (place.enter id) (other.enter id)
  find : place.ReachAlike other view sight (engine.tickets.find id) (place.store.find id)
    (other.store.find id)
  change : forall updates expected, place.ReachAlike other view sight
    (engine.tickets.change id updates expected) (place.store.change id updates expected)
      (other.store.change id updates expected)
  record : forall execution twin, Execution.anonymous execution = Execution.anonymous twin ->
    execution.ticketId = id -> forall state elsewhere, view state = sight elsewhere ->
      view ((place.record execution).perform state).2 =
        sight ((other.record twin).perform elsewhere).2

/-- Two states in which the same is about to happen to the ticket of an id. -/
structure Together (place : Workplace S) (other : Workplace R) (engine : Engine)
    (id : String) (view : S -> V) (sight : R -> V) (state : S) (elsewhere : R) : Prop where
  ready : place.IsReady engine state
  ready_ : other.IsReady engine elsewhere
  clock : (place.part.get state).clock = (other.part.get elsewhere).clock
  slot : engine.slot (place.part.get state) id = engine.slot (other.part.get elsewhere) id
  view : view state = sight elsewhere

/-! ## In lockstep -/

section Lockstep

variable {place : Workplace S} {other : Workplace R} {engine : Engine} {id : String}
  {view : S -> V} {sight : R -> V} {state after : S} {elsewhere final : R}

/-- The states stay together through what touches neither the ticket nor the rows about it. -/
theorem Together.moved
    (together : Together place other engine id view sight state elsewhere)
    (ready : place.IsReady engine after) (ready_ : other.IsReady engine final)
    (still : engine.Still id (place.part.get state) (place.part.get after))
    (still_ : engine.Still id (other.part.get elsewhere) (other.part.get final))
    (same : view after = sight final) :
    Together place other engine id view sight after final := by
  refine ⟨ready, ready_, ?_, ?_, same⟩
  · rw [still.clock, still_.clock, together.clock]
  · rw [still.slot, still_.slot, together.slot]

theorem Together.passed
    (together : Together place other engine id view sight state elsewhere)
    {A B : Type} {act : Act S A} {twin : Act R B}
    (passes : place.Passes engine (place.Unmoved engine id view) act)
    (passes_ : other.Passes engine (other.Unmoved engine id sight) twin) :
    Together place other engine id view sight (act.perform state).2
      (twin.perform elsewhere).2 := by
  rcases passes state together.ready with ⟨ready, unmoved⟩
  rcases passes_ elsewhere together.ready_ with ⟨ready_, unmoved_⟩
  exact together.moved ready ready_ unmoved.still unmoved_.still
    (unmoved.view.trans (together.view.trans unmoved_.view.symm))

/-- The states stay together through what leaves everything that stands. -/
theorem Together.unseen
    (together : Together place other engine id view sight state elsewhere)
    (unseen : Engine.Unseen place.part state after)
    (unseen_ : Engine.Unseen other.part elsewhere final) (same : view after = sight final) :
    Together place other engine id view sight after final :=
  together.moved (together.ready.of_standing unseen) (together.ready_.of_standing unseen_)
    (.of_standing (unseen together.ready.calm).2) (.of_standing (unseen_ together.ready_.calm).2)
    same

/-- What others do about other tickets does not part the states. -/
theorem Together.hidden
    (together : Together place other engine id view sight state elsewhere)
    (ready : place.IsReady engine after) (unmoved : place.Unmoved engine id view state after) :
    Together place other engine id view sight after elsewhere :=
  together.moved ready together.ready_ unmoved.still (.refl _ _ _)
    (unmoved.view.trans together.view)

theorem Together.hidden_
    (together : Together place other engine id view sight state elsewhere)
    (ready : other.IsReady engine final) (unmoved : other.Unmoved engine id sight elsewhere final) :
    Together place other engine id view sight state final :=
  together.moved together.ready ready (.refl _ _ _) unmoved.still
    (together.view.trans unmoved.view.symm)

/-- The states stay together when something is noted in both, or in neither, or in one. -/
theorem Together.noted
    (together : Together place other engine id view sight state elsewhere)
    {execution twin : Execution} (noted : place.Noted engine execution state)
    (noted_ : other.Noted engine twin elsewhere)
    (same : view ((place.record execution).perform state).2 =
      sight ((other.record twin).perform elsewhere).2) :
    Together place other engine id view sight ((place.record execution).perform state).2
      ((other.record twin).perform elsewhere).2 := by
  rcases Engine.same_of_offTrail noted.aside with ⟨clock, stock, _⟩
  rcases Engine.same_of_offTrail noted_.aside with ⟨clock_, stock_, _⟩
  refine ⟨noted.ready, noted_.ready, ?_, ?_, same⟩
  · rw [clock, clock_, together.clock]
  · rw [Engine.slot_of_stock stock, Engine.slot_of_stock stock_, together.slot]

open Script (Alike)
open Script.Alike (Answers)

variable (sound : place.IsSound engine) (sound_ : other.IsSound engine)

section Sound

include sound sound_

theorem drawingSteps_alike (set : forall world state, view (place.part.set world state) = view state)
    (set_ : forall world state, sight (other.part.set world state) = sight state)
    (matchedAt : Instant) (cycleId cycleId_ : Option String) (groups : List Executor.Group) :
    Alike (Together place other engine id view sight)
      (Answers (Execution.AreTwins id))
      (Executor.drawingSteps place.executor id matchedAt cycleId groups)
      (Executor.drawingSteps other.executor id matchedAt cycleId_ groups) := by
  induction groups with
  | nil => exact ⟨[], [], rfl, rfl, rfl, nofun⟩
  | cons group rest inductionHypothesis =>
      have drawn : Alike (Together place other engine id view sight)
          (Answers fun _ _ => True) (Script.one (Act.draw place.executor.freshId))
          (Script.one (Act.draw other.executor.freshId)) :=
        .one fun state elsewhere together =>
          ⟨together.passed (unmoved_draw sound set) (unmoved_draw sound_ set_), _, _, rfl, rfl, trivial⟩
      refine drawn.bind fun _ _ _ => ?_
      refine inductionHypothesis.bind fun executions twins same => ?_
      refine ⟨_, _, rfl, rfl, congrArg₂ List.cons rfl same.same, fun execution member => ?_⟩
      rcases List.mem_cons.mp member with rfl | behind
      · rfl
      · exact same.about execution behind

theorem notifySteps_alike
    (keeps : forall dispatch, place.dispatch = some dispatch -> forall target text,
      (dispatch target text).Keeps view)
    (keeps_ : forall dispatch, other.dispatch = some dispatch -> forall target text,
      (dispatch target text).Keeps sight)
    (ticket ticket_ : Option Ticket) (notifications : List Planned) :
    Alike (Together place other engine id view sight)
      (Answers fun _ _ => True) (Executor.notifySteps place.executor id ticket notifications)
      (Executor.notifySteps other.executor id ticket_ notifications) := by
  induction notifications with
  | nil => exact ⟨(), (), rfl, rfl, trivial⟩
  | cons planned rest inductionHypothesis =>
      have answers {T : Type} (executor : Executor T) (ticket : Option Ticket) (state : T) :
          ((executor.notify id ticket planned).perform state).1 = .ok () := by
        rcases Executor.perform_notify (Executor.isQuiet_trivial executor) id ticket planned state
          with ⟨after, notified, _⟩
        exact congrArg Prod.fst notified
      have sent : Alike (Together place other engine id view sight)
          (Answers fun _ _ => True) (Script.one (place.executor.notify id ticket planned))
          (Script.one (other.executor.notify id ticket_ planned)) :=
        .one fun state elsewhere together =>
          ⟨together.passed
            (passes_notify Unmoved.refl (unmoved_dispatch sound keeps) id ticket planned)
            (passes_notify Unmoved.refl (unmoved_dispatch sound_ keeps_) id ticket_ planned),
            (), (), answers _ _ _, answers _ _ _, trivial⟩
      exact sent.bind fun _ _ _ => inductionHypothesis

variable (meets : Meets place other engine id view sight)

include meets

/-- The same ticket is found, and it has the id that was looked for. -/
theorem findSteps_alike :
    Alike (Together place other engine id view sight)
      (fun result answer => result = answer ∧
        forall ticket, result = .ok (some ticket) -> ticket.id = id)
      (place.steps.find id) (other.steps.find id) := by
  refine .one fun state elsewhere together => ?_
  rcases meets.find state elsewhere together.view with ⟨same, reached⟩
  refine ⟨together.unseen (sound.hampers.find_unseen id state)
    (sound_.hampers.find_unseen id elsewhere) same, ?_, fun ticket found => ?_⟩
  · rcases reached with ⟨⟨answered, _⟩, answered_, _⟩ | ⟨answered, _⟩
    · rw [answered, answered_, (Engine.perform_find together.ready.calm id).1,
        (Engine.perform_find together.ready_.calm id).1, Engine.held_of_slot together.slot]
    · exact answered
  · exact Engine.id_of_held (sound.hampers.held_of_find together.ready.calm (Prod.ext found rfl))

omit sound sound_ in
/-- The same change comes to the same, and leaves the same slot. -/
theorem changeSteps_alike (updates : Tickets.Updates) (expected : Instant) :
    Alike (Together place other engine id view sight) Eq
      (place.steps.change id updates (some expected))
      (other.steps.change id updates (some expected)) := by
  refine .one fun state elsewhere together => ?_
  rcases meets.change updates (some expected) state elsewhere together.view with ⟨same, reached⟩
  rcases reached with ⟨⟨answered, after⟩, answered_, after_⟩ | ⟨answered, after, after_⟩
  · have agree := Engine.change_agree together.ready together.ready_ together.clock together.slot
      updates expected
    have beside := Engine.change_beside together.ready id updates expected
    have beside_ := Engine.change_beside together.ready_ id updates expected
    rcases Engine.same_of_aside beside.aside with ⟨clock, _⟩
    rcases Engine.same_of_aside beside_.aside with ⟨clock_, _⟩
    refine ⟨⟨?_, ?_, ?_, ?_, same⟩, ?_⟩
    · rw [IsReady, after]
      exact beside.ready
    · rw [IsReady, after_]
      exact beside_.ready
    · rw [after, after_, clock, clock_, together.clock]
    · rw [after, after_]
      exact agree.2
    · rw [answered, answered_]
      exact agree.1
  · refine ⟨together.unseen (fun calm => ?_) (fun calm => ?_) same, answered⟩
    · rw [after]
      exact ⟨calm, rfl⟩
    · rw [after_]
      exact ⟨calm, rfl⟩

theorem mutationSteps_alike (mutations : List Planned) :
    Alike (Together place other engine id view sight) (Answers Eq)
      (Executor.mutationSteps place.steps id mutations)
      (Executor.mutationSteps other.steps id mutations) := by
  have rereads : Alike (Together place other engine id view sight)
      (Answers fun answer twin => answer = twin ∧ forall live, answer = .ok live -> live.id = id)
      (Executor.rereadSteps place.steps id) (Executor.rereadSteps other.steps id) := by
    refine (findSteps_alike sound sound_ meets).andThen fun result answer ended => ?_
    rcases ended with ⟨rfl, named⟩
    rcases result with failure | _ | ticket
    · exact ⟨_, _, rfl, rfl, rfl, fun live same => nomatch same⟩
    · exact ⟨_, _, rfl, rfl, rfl, fun live same => nomatch same⟩
    · refine ⟨_, _, rfl, rfl, rfl, fun live same => ?_⟩
      cases same
      exact named ticket rfl
  have writes (live : Ticket) (named : live.id = id) (planned : List Planned) :
      Alike (Together place other engine id view sight) (Answers Eq)
        (Executor.writeSteps place.steps live planned)
        (Executor.writeSteps other.steps live planned) := by
    subst named
    refine (changeSteps_alike meets _ _).andThen fun result answer same => ?_
    subst same
    cases result <;> exact ⟨_, _, rfl, rfl, rfl⟩
  have changes : Alike (Together place other engine id view sight)
      (Answers Eq) (Executor.changeSteps place.steps id mutations)
      (Executor.changeSteps other.steps id mutations) := by
    refine rereads.bind fun answer twin ended => ?_
    rcases ended with ⟨rfl, named⟩
    cases answer with
    | error fault => exact ⟨_, _, rfl, rfl, rfl⟩
    | ok live =>
        show Alike _ _ (if _ then _ else _) (if _ then _ else _)
        split
        · exact ⟨_, _, rfl, rfl, rfl⟩
        · refine (writes live (named live rfl) _).bind fun written twin same => ?_
          subst same
          exact ⟨_, _, rfl, rfl, rfl⟩
  unfold Executor.mutationSteps
  split
  · exact ⟨_, _, rfl, rfl, rfl⟩
  · refine changes.bind fun answer twin same => ?_
    subst same
    exact ⟨_, _, rfl, rfl, rfl⟩

variable (spares : place.Spares id view) (spares_ : other.Spares id sight)

include spares spares_

theorem notificationSteps_alike (live : Option Ticket) (entries : List Executor.Entry)
    (notifications : List Planned) :
    Alike (Together place other engine id view sight) (Answers Eq)
      (Executor.notificationSteps place.steps place.executor id live entries notifications)
      (Executor.notificationSteps other.steps other.executor id live entries notifications) := by
  have describes : Alike (Together place other engine id view sight)
      (Answers fun _ _ => True) (Executor.describedSteps place.steps id live entries)
      (Executor.describedSteps other.steps id live entries) := by
    cases live with
    | some ticket => exact ⟨_, _, rfl, rfl, trivial⟩
    | none =>
        refine (findSteps_alike sound sound_ meets).andThen fun result answer ended => ?_
        rcases ended with ⟨rfl, _⟩
        cases result <;> exact ⟨_, _, rfl, rfl, trivial⟩
  unfold Executor.notificationSteps
  split
  · exact ⟨_, _, rfl, rfl, rfl⟩
  · refine describes.bind fun ticket ticket_ _ => ?_
    refine (notifySteps_alike sound sound_ spares.dispatch spares_.dispatch ticket ticket_
      notifications).bind fun _ _ _ => ?_
    exact ⟨_, _, rfl, rfl, rfl⟩

theorem applySteps_alike (plan : Plan) (matchedAt : Instant) (cycleId cycleId_ : Option String) :
    Alike (Together place other engine id view sight)
      (Answers (Execution.AreTwins id))
      (place.executor.applySteps place.steps id plan matchedAt cycleId)
      (other.executor.applySteps other.steps id plan matchedAt cycleId_) := by
  refine (mutationSteps_alike sound sound_ meets plan.mutations).bind fun changed twin same => ?_
  subst same
  refine (notificationSteps_alike sound sound_ meets spares spares_ changed.1 _
    plan.notifications).bind fun sent twin same => ?_
  subst same
  exact drawingSteps_alike sound sound_ spares.set spares_.set matchedAt cycleId cycleId_ _

/-- A plan comes to executions that are the same but for their ids, or fails for the same reason. -/
theorem attemptSteps_alike (matchedAt : Instant) (cycleId cycleId_ : String) {job : Job}
    (about : job.ticket.id = id) :
    Alike (Together place other engine id view sight)
      (Answers (EndAlike (Execution.AreTwins id)))
      (place.attemptSteps matchedAt cycleId job) (other.attemptSteps matchedAt cycleId_ job) := by
  subst about
  unfold attemptSteps
  cases job.plan with
  | error reason => exact ⟨_, _, rfl, rfl, .failed reason⟩
  | ok plan =>
      have enters : Alike (Together place other engine job.ticket.id view sight) Eq
          (Script.one (place.enter job.ticket.id)) (Script.one (other.enter job.ticket.id)) := by
        refine .one fun state elsewhere together => ?_
        rcases meets.enter state elsewhere together.view with ⟨answered, same⟩
        exact ⟨together.unseen (sound.enter _ state) (sound_.enter _ elsewhere) same, answered⟩
      have carries : Alike (Together place other engine job.ticket.id view sight)
          (EndAlike (Execution.AreTwins job.ticket.id))
          ((Script.one (place.enter job.ticket.id)).bind fun _ =>
            place.executor.applySteps place.steps job.ticket.id plan matchedAt (some cycleId))
          ((Script.one (other.enter job.ticket.id)).bind fun _ =>
            other.executor.applySteps other.steps job.ticket.id plan matchedAt
              (some cycleId_)) := by
        refine enters.bindSame (fun _ => ?_) .failed
        refine (applySteps_alike sound sound_ meets spares spares_ plan matchedAt (some cycleId)
          (some cycleId_)).weaken fun result answer ended => ?_
        rcases ended with ⟨executions, twins, rfl, rfl, same⟩
        exact .answered same
      refine carries.andThen fun result answer ended => ⟨_, _, rfl, rfl, ?_⟩
      cases ended with
      | failed failure => exact .failed _
      | answered same => exact .answered same

theorem executionSteps_alike (matchedAt : Instant) (cycleId cycleId_ : String) {job : Job}
    (about : job.ticket.id = id) :
    Alike (Together place other engine id view sight)
      (Answers (Execution.AreTwins id))
      ((place.attemptSteps matchedAt cycleId job).bind
        (place.executionSteps engine matchedAt cycleId job))
      ((other.attemptSteps matchedAt cycleId_ job).bind
        (other.executionSteps engine matchedAt cycleId_ job)) := by
  refine (attemptSteps_alike sound sound_ meets spares spares_ matchedAt cycleId cycleId_
    about).bind fun answer twin ended => ?_
  cases ended with
  | answered same => exact ⟨_, _, rfl, rfl, same⟩
  | failed reason =>
      refine .one fun state elsewhere together => ⟨together.passed
        (unmoved_failedExecutions sound spares.set job.ticket.id reason matchedAt cycleId _)
        (unmoved_failedExecutions sound_ spares_.set job.ticket.id reason matchedAt cycleId_ _), ?_⟩
      rcases @failedExecutions_answers S place engine job.ticket.id reason matchedAt cycleId
        job.firing state with ⟨executions, answered, known⟩
      rcases @failedExecutions_answers R other engine job.ticket.id reason matchedAt cycleId_
        job.firing elsewhere with ⟨twins, answered_, known_⟩
      exact ⟨executions, twins, answered, answered_, known.trans known_.symm,
        ticketId_of_anonymous known fun _ => about⟩

omit spares spares_ in
/-- Whatever can be noted of them, executions are recorded in lockstep. -/
theorem recordSteps_alike {executions twins : List Execution}
    (same : executions.map Execution.anonymous = twins.map Execution.anonymous)
    (about : forall execution, execution ∈ executions -> execution.ticketId = id) :
    Alike (Together place other engine id view sight) (Answers fun _ _ => True)
      (Cycle.recordSteps (place.desk engine) executions)
      (Cycle.recordSteps (other.desk engine) twins) := by
  induction executions generalizing twins with
  | nil =>
      cases List.map_eq_nil_iff.mp same.symm
      exact ⟨_, _, rfl, rfl, trivial⟩
  | cons execution rest inductionHypothesis =>
      rcases twins with _ | ⟨twin, others⟩
      · cases same
      rcases List.cons.inj same with ⟨alike, behind⟩
      have later := inductionHypothesis behind fun other member =>
        about other (List.mem_cons_of_mem _ member)
      have here := about execution List.mem_cons_self
      have records : Alike (Together place other engine id view sight)
          (fun result answer =>
            (result = .ok () ∨ Exists fun failure => result = .error failure ∧
              failure.isOf .audit = true) ∧
            (answer = .ok () ∨ Exists fun failure => answer = .error failure ∧
              failure.isOf .audit = true))
          (Script.one (place.record execution)) (Script.one (other.record twin)) := by
        refine .one fun state elsewhere together => ?_
        have noted := sound.noted together.ready execution
        have noted_ := sound_.noted together.ready_ twin
        exact ⟨together.noted noted noted_
          (meets.record execution twin alike here state elsewhere together.view),
          noted.trail.imp And.left And.left, noted_.trail.imp And.left And.left⟩
      -- Counting a failure, or not, goes on as recording the rest does.
      refine records.andThen fun result answer ended => ?_
      rcases ended with ⟨rfl | ⟨failure, rfl, audit⟩, rfl | ⟨failure_, rfl, audit_⟩⟩
      · exact later
      · simp only [audit_, if_true]
        show Alike _ _ (Cycle.recordSteps (place.desk engine) rest) _
        rw [← Script.bind_done (Cycle.recordSteps (place.desk engine) rest)]
        exact later.bind fun count twin _ => ⟨_, _, rfl, rfl, trivial⟩
      · simp only [audit, if_true]
        show Alike _ _ _ (Cycle.recordSteps (other.desk engine) others)
        rw [← Script.bind_done (Cycle.recordSteps (other.desk engine) others)]
        exact later.bind fun count twin _ => ⟨_, _, rfl, rfl, trivial⟩
      · simp only [audit, audit_, if_true]
        exact later.bind fun count twin _ => ⟨_, _, rfl, rfl, trivial⟩

/-- The same job comes to the same at two workplaces at which its operations behave alike. -/
theorem toDo_alike (matchedAt : Instant) (cycleId cycleId_ : String) {job : Job}
    (about : job.ticket.id = id) :
    Alike (Together place other engine id view sight) (Answers Done.IsTwin)
      (place.toDo engine matchedAt cycleId job) (other.toDo engine matchedAt cycleId_ job) := by
  refine (executionSteps_alike sound sound_ meets spares spares_ matchedAt cycleId cycleId_
    about).bind fun executions twins same => ?_
  refine (recordSteps_alike sound sound_ meets same.same same.about).bind fun _ _ _ => ?_
  exact ⟨_, _, rfl, rfl, rfl, same.same⟩

end Sound

end Lockstep

end Workplace
end Triage
