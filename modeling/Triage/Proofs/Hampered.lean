import Triage.Drill
import Triage.Proofs.Executor
import Triage.Proofs.Tickets.Stock

namespace Triage

/-!
# An engine that is kept from its store

An engine may reach its tickets through a store that fails now and then, or answers without having
done anything.  Such a store *hampers* that of the engine: each operation does on the world what
the store of the engine does, or leaves the world alone and does not claim success.  The store of
the engine itself hampers nothing, and stores in drills are of this kind.

Whatever else carrying out a plan does, to read, to send and to draw ids, shows neither in the
tickets nor in the rows of rules and executions.
-/

variable {S A : Type}

/-- An act does what another does on a part, or leaves the part alone and answers something else. -/
def Part.Attempts (part : Part S World) (own : Act World A) (instead : Except Failure A -> Prop)
    (act : Act S A) : Prop :=
  forall state,
    ((act.perform state).1 = (own.perform (part.get state)).1 ∧
        part.get (act.perform state).2 = (own.perform (part.get state)).2) ∨
      (instead (act.perform state).1 ∧ part.get (act.perform state).2 = part.get state)

/-- The act failed. -/
def Act.Failed (result : Except Failure A) : Prop := Exists fun failure => result = .error failure

namespace Engine

/-- A store through which the engine does not always reach its own. -/
structure Hampers (engine : Engine) (part : Part S World) (store : Tickets.Store S) : Prop where
  listOpen : part.Attempts (engine.tickets.listOpen none) Act.Failed (store.listOpen none)
  find : forall id, part.Attempts (engine.tickets.find id)
    (fun result => Act.Failed result ∨ result = .ok none) (store.find id)
  change : forall id updates expected, part.Attempts (engine.tickets.change id updates expected)
    (fun result => Act.Failed result ∨ result = .ok false) (store.change id updates expected)

/-- A store through which the engine reads and writes a ticket as through its own. -/
structure Serves (engine : Engine) (part : Part S World) (store : Tickets.Store S)
    (id : String) : Prop where
  find : forall state,
    ((store.find id).perform state).1 = ((engine.tickets.find id).perform (part.get state)).1
  change : forall updates expected state,
    ((store.change id updates expected).perform state).1 =
      ((engine.tickets.change id updates expected).perform (part.get state)).1

variable (engine : Engine)

theorem tickets_serves (id : String) : engine.Serves (Part.whole World) engine.tickets id :=
  ⟨fun _ => rfl, fun _ _ _ => rfl⟩

/-- The store of an engine does what it does. -/
theorem tickets_hampers : engine.Hampers (Part.whole World) engine.tickets :=
  ⟨fun _ => Or.inl ⟨rfl, rfl⟩, fun _ _ => Or.inl ⟨rfl, rfl⟩, fun _ _ _ _ => Or.inl ⟨rfl, rfl⟩⟩

end Engine

namespace Drill

theorem world_isLawful : (world (S := S)).IsLawful :=
  ⟨fun _ _ => rfl, fun _ => rfl, fun _ _ _ => rfl⟩

/-- A guarded operation does its work, or answers what a trap makes it answer. -/
theorem guarded_attempts {operation : Operation} {ticket : Option String}
    {instead : Value -> Except Failure A} {answers : Except Failure A -> Prop}
    (failing : forall failure, answers (.error failure))
    (other : forall value, answers (instead value)) (own : Act World A) :
    world.Attempts own answers (guarded operation ticket instead (world.perform own)) := by
  intro stage
  rw [guarded, spring, Act.perform_draw_bind]
  cases stage.traps.find? fun trap => trap.catches operation ticket with
  | none => exact Or.inl ⟨rfl, rfl⟩
  | some trap =>
      simp only
      cases trap.effect with
      | fails failure => exact Or.inr ⟨failing failure, rfl⟩
      | answersNothing => exact Or.inr ⟨other .null, rfl⟩
      | answersFalse => exact Or.inr ⟨other (.bool false), rfl⟩

end Drill

namespace Engine

/-- The store of an engine in a drill hampers that of the engine. -/
theorem drilledTickets_hampers (engine : Engine) :
    engine.Hampers Drill.world engine.drilledTickets := by
  refine ⟨?_, fun id => ?_, fun id updates expected => ?_⟩
  · exact Drill.guarded_attempts (fun failure => ⟨failure, rfl⟩) (fun _ => ⟨_, rfl⟩) _
  · exact Drill.guarded_attempts (fun failure => Or.inl ⟨failure, rfl⟩) (fun _ => Or.inr rfl) _
  · exact Drill.guarded_attempts (fun failure => Or.inl ⟨failure, rfl⟩) (fun _ => Or.inr rfl) _

end Engine

/-! ## What goes unseen -/

namespace World

/-- Everything in the world but drawn ids, messages and the state of the connections. -/
def standing (world : World) : World :=
  { world with ids := .none_, outbox := [], database := .make 0 world.database.data }

/-- Two worlds with the same standing have the same records. -/
theorem standing_of_contents {before after : World} (same : after.contents = before.contents) :
    after.standing = before.standing := by
  have seen := congrArg standing same
  exact seen

end World

namespace Engine

variable {engine : Engine} {part : Part S World} {store : Tickets.Store S}

/-- Nothing that stands in the world has changed. -/
def Unseen (part : Part S World) (before after : S) : Prop :=
  World.Leaves World.standing (part.get before) (part.get after)

theorem Unseen.refl (part : Part S World) (state : S) : Unseen part state state :=
  World.Leaves.refl _ _

theorem Unseen.trans {first second third : S} (one : Unseen part first second)
    (two : Unseen part second third) : Unseen part first third := World.Leaves.trans one two

/-- Reading through a hampered store changes nothing that stands. -/
theorem Hampers.find_unseen (hampers : engine.Hampers part store) (id : String) :
    (store.find id).Along (Unseen part) := by
  intro state calm
  rcases hampers.find id state with ⟨_, reached⟩ | ⟨_, same⟩
  · rw [reached]
    rcases (perform_find calm id).2 calm with ⟨again, contents⟩
    exact ⟨again, World.standing_of_contents contents⟩
  · rw [same]
    exact ⟨calm, rfl⟩

/-- Everything that carries out a plan but the write is unseen. -/
theorem Hampers.isQuiet (hampers : engine.Hampers part store) (lawful : part.IsLawful) :
    (engine.executor part store).IsQuiet (Unseen part) := by
  refine ⟨Unseen.refl part, Unseen.trans, hampers.find_unseen, ?_, ?_⟩
  · intro dispatch known target text state calm
    unfold executor at known
    split at known
    next =>
        cases known
        rw [Part.perform_perform, lawful.get_set]
        exact ⟨calm, rfl⟩
    next => cases known
  · intro state calm
    have drawn : part.get ((Act.draw (engine.executor part store).freshId).perform state).2 =
        (World.drawRecordId (part.get state)).2 := lawful.get_set _ _
    rw [drawn]
    exact ⟨calm, rfl⟩

end Engine
end Triage
