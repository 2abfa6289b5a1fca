import Triage.Failure

namespace Triage

/-!
Acts: what changes a state and may fail.

A failing act keeps the changes it made before it failed, as a program that stops halfway
does.  What has to be undone is undone explicitly.
-/

/-- A step that changes a state and either answers or fails. -/
abbrev Act (S : Type) := ExceptT Failure (StateM S)

namespace Act

/-- Runs an act: its answer or failure, and the state it leaves. -/
def perform {S A : Type} (act : Act S A) (state : S) : Except Failure A × S := act.run.run state

/-- The act of a function on states. -/
def of {S A : Type} (step : S -> Except Failure A × S) : Act S A := ExceptT.mk step

/-- An act that changes nothing. -/
def ofResult {S A : Type} (result : Except Failure A) : Act S A := of fun state => (result, state)

def look {S A : Type} (read : S -> A) : Act S A := of fun state => (.ok (read state), state)

/-- An act that only changes the state. -/
def change {S : Type} (step : S -> S) : Act S Unit := of fun state => (.ok (), step state)

/-- An act that takes something from the state. -/
def draw {S A : Type} (step : S -> A × S) : Act S A :=
  of fun state => (.ok (step state).1, (step state).2)

/-- An act whose failure is an answer. -/
def attempt {S A : Type} (act : Act S A) : Act S (Except Failure A) :=
  of fun state => (.ok (act.perform state).1, (act.perform state).2)

/-- An act whose failures are replaced. -/
def mapFailure {S A : Type} (replace : Failure -> Failure) (act : Act S A) : Act S A :=
  of fun state => ((act.perform state).1.mapError replace, (act.perform state).2)

@[simp]
theorem perform_of {S A : Type} (step : S -> Except Failure A × S) (state : S) :
    (of step).perform state = step state := rfl

@[simp]
theorem perform_pure {S A : Type} (a : A) (state : S) :
    (pure a : Act S A).perform state = (.ok a, state) := rfl

theorem perform_bind {S A B : Type} (act : Act S A) (next : A -> Act S B) (state : S) :
    (act >>= next).perform state =
      match act.perform state with
      | (.ok a, state) => (next a).perform state
      | (.error failure, state) => (.error failure, state) := by
  simp only [perform, ExceptT.run_bind, StateT.run_bind]
  rcases act.run.run state with ⟨result, after⟩
  cases result <;> rfl

end Act

/-- A part of a state: how to see it and how to replace it. -/
structure Part (S T : Type) where
  get : S -> T
  set : T -> S -> S

namespace Part

/-- An act on a part, as an act on the whole. -/
def perform {S T A : Type} (part : Part S T) (act : Act T A) : Act S A :=
  Act.of fun state =>
    let (result, after) := act.perform (part.get state)
    (result, part.set after state)

/-- The whole state as a part of itself. -/
def whole (S : Type) : Part S S := ⟨id, fun after _ => after⟩

@[simp]
theorem perform_perform {S T A : Type} (part : Part S T) (act : Act T A) (state : S) :
    (part.perform act).perform state =
      ((act.perform (part.get state)).1, part.set (act.perform (part.get state)).2 state) := rfl

end Part
end Triage
