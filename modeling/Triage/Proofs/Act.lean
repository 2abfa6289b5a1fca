import Triage.Act

namespace Triage

/-!
# Performing acts

Every act is performed on a state, and what it does there follows from what its parts do.  The
equations here open the ways in which acts are put together, so that no later proof has to look
inside them.

Two statements about all states are kept apart.  An act *runs along* a relation when every state
is related to the state it leaves, whatever it answers; relations that are reflexive and
transitive survive sequencing.  An act *keeps* a view of the state when the view is the same
before and after.
-/

namespace Act

variable {S T A B V : Type}

@[simp]
theorem perform_ofResult (result : Except Failure A) (state : S) :
    (ofResult result).perform state = (result, state) := rfl

@[simp]
theorem perform_look (read : S -> A) (state : S) :
    (look read).perform state = (.ok (read state), state) := rfl

@[simp]
theorem perform_change (step : S -> S) (state : S) :
    (change step).perform state = (.ok (), step state) := rfl

@[simp]
theorem perform_draw (step : S -> A × S) (state : S) :
    (draw step).perform state = (.ok (step state).1, (step state).2) := rfl

@[simp]
theorem perform_attempt (act : Act S A) (state : S) :
    act.attempt.perform state = (.ok (act.perform state).1, (act.perform state).2) := rfl

@[simp]
theorem perform_mapFailure (replace : Failure -> Failure) (act : Act S A) (state : S) :
    (act.mapFailure replace).perform state =
      ((act.perform state).1.mapError replace, (act.perform state).2) := rfl

/-- Sequencing goes on from the answer of the first act. -/
theorem perform_bind_ok {act : Act S A} {next : A -> Act S B} {state after : S} {a : A}
    (performed : act.perform state = (.ok a, after)) :
    (act >>= next).perform state = (next a).perform after := by
  rw [perform_bind, performed]

/-- Sequencing stops at a failure of the first act. -/
theorem perform_bind_error {act : Act S A} {next : A -> Act S B} {state after : S}
    {failure : Failure} (performed : act.perform state = (.error failure, after)) :
    (act >>= next).perform state = (.error failure, after) := by
  rw [perform_bind, performed]

/-- Acts one after the other that answer have an answer wherever they go on from one. -/
theorem exists_of_bind_ok {act : Act S A} {next : A -> Act S B} {state after : S}
    {b : B} (performed : (act >>= next).perform state = (.ok b, after)) :
    Exists fun a => Exists fun between =>
      act.perform state = (.ok a, between) ∧ (next a).perform between = (.ok b, after) := by
  cases first : act.perform state with
  | mk result between =>
      cases result with
      | error failure =>
          rw [perform_bind_error first] at performed
          cases performed
      | ok a =>
          rw [perform_bind_ok first] at performed
          exact ⟨a, between, rfl, performed⟩

/-- An act that only looks hands the next one what it saw. -/
@[simp]
theorem perform_look_bind (read : S -> A) (next : A -> Act S B) (state : S) :
    (look read >>= next).perform state = (next (read state)).perform state :=
  perform_bind_ok rfl

@[simp]
theorem perform_change_bind (step : S -> S) (next : Unit -> Act S B) (state : S) :
    (change step >>= next).perform state = (next ()).perform (step state) :=
  perform_bind_ok rfl

@[simp]
theorem perform_draw_bind (step : S -> A × S) (next : A -> Act S B) (state : S) :
    (draw step >>= next).perform state = (next (step state).1).perform (step state).2 :=
  perform_bind_ok rfl

@[simp]
theorem perform_attempt_bind (act : Act S A) (next : Except Failure A -> Act S B) (state : S) :
    (act.attempt >>= next).perform state =
      (next (act.perform state).1).perform (act.perform state).2 :=
  perform_bind_ok rfl

@[simp]
theorem perform_map (f : A -> B) (act : Act S A) (state : S) :
    (f <$> act).perform state = ((act.perform state).1.map f, (act.perform state).2) := by
  rw [<- bind_pure_comp, perform_bind]
  rcases act.perform state with ⟨result, after⟩
  cases result <;> rfl

/-- A list of acts is performed in turn. -/
theorem perform_mapM_cons (step : A -> Act S B) (a : A) (rest : List A) (state : S) :
    ((a :: rest).mapM step).perform state =
      ((step a) >>= fun b => List.cons b <$> rest.mapM step).perform state := by
  simp only [List.mapM_cons, map_eq_pure_bind]

/-! ## Running along a relation -/

/-- Whatever the act answers, it leaves a state related to the one it began on. -/
def Along (relation : S -> S -> Prop) (act : Act S A) : Prop :=
  forall state, relation state (act.perform state).2

/-- The act leaves a view of the state as it was. -/
def Keeps (view : S -> V) (act : Act S A) : Prop :=
  act.Along fun before after => view after = view before

namespace Along

variable {relation : S -> S -> Prop}

theorem ofResult (reflexive : forall state, relation state state) (result : Except Failure A) :
    (Act.ofResult result).Along relation := fun state => reflexive state

theorem pure (reflexive : forall state, relation state state) (a : A) :
    (Pure.pure a : Act S A).Along relation := fun state => reflexive state

theorem look (reflexive : forall state, relation state state) (read : S -> A) :
    (Act.look read).Along relation := fun state => reflexive state

theorem attempt {act : Act S A} (along : act.Along relation) : act.attempt.Along relation :=
  fun state => along state

theorem mapFailure {act : Act S A} (replace : Failure -> Failure) (along : act.Along relation) :
    (act.mapFailure replace).Along relation := fun state => along state

theorem map {act : Act S A} (f : A -> B) (along : act.Along relation) :
    (f <$> act).Along relation := by
  intro state
  rw [perform_map]
  exact along state

theorem bind (transitive : forall {first second third}, relation first second ->
      relation second third -> relation first third)
    {act : Act S A} {next : A -> Act S B}
    (along : act.Along relation) (later : forall a, (next a).Along relation) :
    (act >>= next).Along relation := by
  intro state
  have first := along state
  cases performed : act.perform state with
  | mk result after =>
      rw [performed] at first
      cases result with
      | error failure =>
          rw [perform_bind_error performed]
          exact first
      | ok a =>
          rw [perform_bind_ok performed]
          exact transitive first (later a after)

theorem mapM (reflexive : forall state, relation state state)
    (transitive : forall {first second third}, relation first second ->
      relation second third -> relation first third)
    {step : A -> Act S B} (along : forall a, (step a).Along relation) (items : List A) :
    (items.mapM step).Along relation := by
  induction items with
  | nil => exact pure reflexive []
  | cons a rest inductionHypothesis =>
      intro state
      rw [perform_mapM_cons]
      exact @bind S _ _ relation @transitive _ _ (along a)
        (fun b => map (List.cons b) inductionHypothesis) state

end Along

namespace Keeps

variable {view : S -> V}

theorem ofResult (result : Except Failure A) : (Act.ofResult result).Keeps view :=
  fun _ => rfl

theorem pure (a : A) : (Pure.pure a : Act S A).Keeps view := fun _ => rfl

theorem look (read : S -> A) : (Act.look read).Keeps view := fun _ => rfl

theorem attempt {act : Act S A} (keeps : act.Keeps view) : act.attempt.Keeps view :=
  Along.attempt keeps

theorem map {act : Act S A} (f : A -> B) (keeps : act.Keeps view) : (f <$> act).Keeps view :=
  Along.map f keeps

theorem bind {act : Act S A} {next : A -> Act S B} (keeps : act.Keeps view)
    (later : forall a, (next a).Keeps view) : (act >>= next).Keeps view :=
  Along.bind (fun first second => second.trans first) keeps later

theorem mapM {step : A -> Act S B} (keeps : forall a, (step a).Keeps view) (items : List A) :
    (items.mapM step).Keeps view :=
  @Along.mapM S A B (fun before after => view after = view before) (fun _ => rfl)
    (fun first second => second.trans first) step keeps items

/-- What is kept is the same in the state that an act leaves. -/
theorem after {act : Act S A} (keeps : act.Keeps view) (state : S) :
    view (act.perform state).2 = view state := keeps state

end Keeps
end Act

/-! ## Parts -/

/-- A part can be seen as it was set, and setting it back and forth changes nothing else. -/
structure Part.IsLawful {S T : Type} (part : Part S T) : Prop where
  get_set : forall after state, part.get (part.set after state) = after
  set_get : forall state, part.set (part.get state) state = state
  set_set : forall later after state, part.set later (part.set after state) = part.set later state

namespace Part

variable {S T : Type}

theorem whole_isLawful : (Part.whole S).IsLawful :=
  ⟨fun _ _ => rfl, fun _ => rfl, fun _ _ _ => rfl⟩

end Part
end Triage
