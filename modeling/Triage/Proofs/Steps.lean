import Triage.Proofs.Act

namespace Triage

/-!
# Acts as the steps they take

An act says what happens when nobody comes in between.  A script takes the same act apart into
steps that each happen at once, and leaves room for others between them.  That a script is one
of an act means that its steps in a row, with nobody else around, are that act.

What a run of a script does is kept as the list of its moves, the script's own ones and those of
others, each with the state before and after it.  Nothing is assumed here about what others do.
-/

/-- Steps of an act; the answer or failure of each decides how to go on. -/
inductive Script (S A : Type) : Type 1 where
  | done (result : Except Failure A)
  | step {B : Type} (act : Act S B) (next : Except Failure B -> Script S A)

namespace Script

variable {S T A B : Type}

def one (act : Act S A) : Script S A := step act done

def andThen (script : Script S A) (next : Except Failure A -> Script S B) : Script S B :=
  match script with
  | done result => next result
  | step act later => step act fun answer => (later answer).andThen next

/-- Goes on from the answer of a script, and ends with its failure. -/
def bind (script : Script S A) (next : A -> Script S B) : Script S B :=
  script.andThen fun
    | .ok a => next a
    | .error failure => done (.error failure)

/-- The steps of a script on a part. -/
def on (part : Part T S) : Script S A -> Script T A
  | done result => done result
  | step act next => step (part.perform act) fun answer => (next answer).on part

/-- The act that takes all steps in a row. -/
def act : Script S A -> Act S A
  | done result => Act.ofResult result
  | step act next => do
      let answer <- act.attempt
      (next answer).act

theorem perform_one (act : Act S A) (state : S) :
    (one act).act.perform state = act.perform state := by
  rw [one, Script.act, Act.perform_attempt_bind]
  rfl

theorem perform_andThen (script : Script S A) (next : Except Failure A -> Script S B)
    (state : S) : (script.andThen next).act.perform state =
      (next (script.act.perform state).1).act.perform (script.act.perform state).2 := by
  induction script generalizing state with
  | done result => rfl
  | step act later inductionHypothesis =>
      rw [andThen, Script.act, Act.perform_attempt_bind, inductionHypothesis, Script.act,
        Act.perform_attempt_bind]

theorem perform_bind (script : Script S A) (next : A -> Script S B) (state : S) :
    (script.bind next).act.perform state =
      (script.act >>= fun a => (next a).act).perform state := by
  rw [bind, perform_andThen, Act.perform_bind]
  rcases script.act.perform state with ⟨answer, after⟩
  cases answer <;> rfl

/-- Going on with nothing but the answer changes nothing. -/
theorem bind_done (script : Script S A) : (script.bind fun a => done (.ok a)) = script := by
  induction script with
  | done result => cases result <;> rfl
  | step act next inductionHypothesis =>
      exact congrArg (step act) (funext fun answer => inductionHypothesis answer)

theorem perform_on {part : Part T S} (lawful : part.IsLawful) (script : Script S A) (state : T) :
    (script.on part).act.perform state = (part.perform script.act).perform state := by
  induction script generalizing state with
  | done result =>
      refine Prod.ext rfl ?_
      exact (lawful.set_get state).symm
  | step act next inductionHypothesis =>
      rw [on, Script.act, Act.perform_attempt_bind, inductionHypothesis]
      simp only [Part.perform_perform, Script.act, Act.perform_attempt_bind, lawful.get_set,
        lawful.set_set]

/-! ## Runs among others -/

/-- Something that happened: whether it was an own step, and what it led from and to. -/
structure Move (T : Type) where
  own : Bool
  before : T
  after : T

/-- The steps of a script with nobody else around. -/
def trace (part : Part T S) : Script S A -> T -> List (Move T)
  | done _, _ => []
  | step act next, state =>
      ⟨true, state, ((part.perform act).perform state).2⟩ ::
        (next ((part.perform act).perform state).1).trace part ((part.perform act).perform state).2

theorem own_of_mem_trace {part : Part T S} {script : Script S A} {state : T} {move : Move T}
    (member : move ∈ script.trace part state) : move.own = true := by
  induction script generalizing state with
  | done result => cases member
  | step act next inductionHypothesis =>
      rcases List.mem_cons.mp member with rfl | later
      · rfl
      · exact inductionHypothesis _ later

/-- Moves that lead from one state to another one, each from where the one before it ended. -/
inductive Path : T -> List (Move T) -> T -> Prop where
  | nil {state : T} : Path state [] state
  | cons {own : Bool} {state next after : T} {moves : List (Move T)}
      (later : Path next moves after) : Path state (⟨own, state, next⟩ :: moves) after

/-- Others do something, again and again. -/
inductive Waits (others : T -> T -> Prop) : T -> List (Move T) -> T -> Prop where
  | nil {state : T} : Waits others state [] state
  | cons {state next after : T} {moves : List (Move T)} (moved : others state next)
      (later : Waits others next moves after) :
      Waits others state (⟨false, state, next⟩ :: moves) after

/-- A run of a script on a part of a state in which others do something between its steps. -/
inductive Runs (part : Part T S) (others : T -> T -> Prop) :
    Script S A -> T -> List (Move T) -> Except Failure A -> T -> Prop where
  | done {result : Except Failure A} {state : T} :
      Runs part others (.done result) state [] result state
  | own {B : Type} {act : Act S B} {next : Except Failure B -> Script S A} {state after : T}
      {moves : List (Move T)} {result : Except Failure A}
      (later : Runs part others (next ((part.perform act).perform state).1)
        ((part.perform act).perform state).2 moves result after) :
      Runs part others (.step act next) state
        (⟨true, state, ((part.perform act).perform state).2⟩ :: moves) result after
  | other {script : Script S A} {state next after : T} {moves : List (Move T)}
      {result : Except Failure A} (moved : others state next)
      (later : Runs part others script next moves result after) :
      Runs part others script state (⟨false, state, next⟩ :: moves) result after

theorem Path.append {first between last : T} {moves later : List (Move T)}
    (one : Path first moves between) (two : Path between later last) :
    Path first (moves ++ later) last := by
  induction one with
  | nil => exact two
  | cons _ inductionHypothesis => exact .cons (inductionHypothesis two)

/-- Moves in a row are moves up to some state, and moves from there. -/
theorem Path.of_append {first last : T} {moves later : List (Move T)}
    (path : Path first (moves ++ later) last) :
    Exists fun between => Path first moves between ∧ Path between later last := by
  induction moves generalizing first with
  | nil => exact ⟨first, .nil, path⟩
  | cons move rest inductionHypothesis =>
      cases path with
      | cons path =>
          rcases inductionHypothesis path with ⟨between, one, two⟩
          exact ⟨between, .cons one, two⟩

theorem Path.before {first last : T} {move : Move T} {later : List (Move T)}
    (path : Path first (move :: later) last) : move.before = first := by
  cases path with
  | cons _ => rfl

theorem Waits.path {others : T -> T -> Prop} {state after : T} {moves : List (Move T)}
    (waits : Waits others state moves after) : Path state moves after := by
  induction waits with
  | nil => exact .nil
  | cons _ _ inductionHypothesis => exact .cons inductionHypothesis

theorem Waits.append {others : T -> T -> Prop} {first between last : T}
    {moves later : List (Move T)} (one : Waits others first moves between)
    (two : Waits others between later last) : Waits others first (moves ++ later) last := by
  induction one with
  | nil => exact two
  | cons moved _ inductionHypothesis => exact .cons moved (inductionHypothesis two)

/-- Own moves leave a view of the state as it was. -/
def Quiet {V : Type} (view : T -> V) (moves : List (Move T)) : Prop :=
  forall move, move ∈ moves -> move.own = true -> view move.after = view move.before

namespace Quiet

variable {V : Type} {view : T -> V} {moves later : List (Move T)}

theorem append (one : Quiet view moves) (two : Quiet view later) : Quiet view (moves ++ later) :=
  fun move member => (List.mem_append.mp member).elim (one move) (two move)

theorem cons {move : Move T} (same : move.own = true -> view move.after = view move.before)
    (rest : Quiet view later) : Quiet view (move :: later) := by
  intro other member
  rcases List.mem_cons.mp member with rfl | behind
  · exact same
  · exact rest other behind

theorem of_waits {others : T -> T -> Prop} {state after : T}
    (waits : Waits others state moves after) : Quiet view moves := by
  induction waits with
  | nil => exact fun move member => absurd member List.not_mem_nil
  | cons _ _ inductionHypothesis =>
      exact cons (fun own => absurd own Bool.false_ne_true) inductionHypothesis

end Quiet

namespace Runs

variable {part : Part T S} {others : T -> T -> Prop} {state after : T} {moves : List (Move T)}

theorem wait {script : Script S A} {between : T} {waits : List (Move T)}
    {result : Except Failure A} (waited : Waits others state waits between)
    (runs : Runs part others script between moves result after) :
    Runs part others script state (waits ++ moves) result after := by
  induction waited with
  | nil => exact runs
  | cons moved _ inductionHypothesis => exact .other moved (inductionHypothesis runs)

/-- Others may go on moving after the end of a run. -/
theorem waits {script : Script S A} {between : T} {waits : List (Move T)}
    {result : Except Failure A} (runs : Runs part others script state moves result between)
    (waited : Waits others between waits after) :
    Runs part others script state (moves ++ waits) result after := by
  induction runs with
  | @done result state =>
      have nothing : Runs part others (.done result : Script S A) after [] result after := .done
      have all := wait waited nothing
      rw [List.append_nil] at all
      exact all
  | own _ inductionHypothesis => exact .own (inductionHypothesis waited)
  | other moved _ inductionHypothesis => exact .other moved (inductionHypothesis waited)

theorem path {script : Script S A} {result : Except Failure A}
    (runs : Runs part others script state moves result after) : Path state moves after := by
  induction runs with
  | done => exact .nil
  | own _ inductionHypothesis => exact .cons inductionHypothesis
  | other _ _ inductionHypothesis => exact .cons inductionHypothesis

theorem of_done {final result : Except Failure A}
    (runs : Runs part others (.done final) state moves result after) :
    result = final ∧ Waits others state moves after := by
  -- The induction is on the run, so its script has to be a variable.
  generalize same : Script.done final = script at runs
  induction runs with
  | done =>
      cases same
      exact ⟨rfl, .nil⟩
  | own => cases same
  | other moved _ inductionHypothesis =>
      rcases inductionHypothesis same with ⟨equal, waits⟩
      exact ⟨equal, .cons moved waits⟩

theorem of_step {act : Act S B} {next : Except Failure B -> Script S A}
    {result : Except Failure A}
    (runs : Runs part others (.step act next) state moves result after) :
    Exists fun waits => Exists fun between => Exists fun later =>
      moves = waits ++ ⟨true, between, ((part.perform act).perform between).2⟩ :: later ∧
      Waits others state waits between ∧
      Runs part others (next ((part.perform act).perform between).1)
        ((part.perform act).perform between).2 later result after := by
  generalize same : Script.step act next = script at runs
  induction runs with
  | done => cases same
  | own later =>
      cases same
      exact ⟨[], _, _, rfl, .nil, later⟩
  | other moved _ inductionHypothesis =>
      rcases inductionHypothesis same with ⟨waits, between, later, rfl, waited, runs⟩
      exact ⟨_ :: waits, between, later, rfl, .cons moved waited, runs⟩

/-- A run of one script after another is a run of the one and a run of the other. -/
theorem of_andThen {script : Script S A} {next : Except Failure A -> Script S B}
    {result : Except Failure B}
    (runs : Runs part others (script.andThen next) state moves result after) :
    Exists fun first => Exists fun later => Exists fun answer => Exists fun between =>
      moves = first ++ later ∧ Runs part others script state first answer between ∧
      Runs part others (next answer) between later result after := by
  induction script generalizing state moves with
  | done final => exact ⟨[], moves, final, state, rfl, .done, runs⟩
  | step act steps inductionHypothesis =>
      rcases of_step runs with ⟨waits, middle, rest, rfl, waited, ran⟩
      rcases inductionHypothesis _ ran with ⟨first, later, answer, between, rfl, one, two⟩
      refine ⟨waits ++ ⟨true, middle, ((part.perform act).perform middle).2⟩ :: first, later,
        answer, between, ?_, wait waited (.own one), two⟩
      rw [List.append_assoc, List.cons_append]

/-- A run that answers has an answer wherever it goes on from one. -/
theorem of_bind {script : Script S A} {next : A -> Script S B} {b : B}
    (runs : Runs part others (script.bind next) state moves (.ok b) after) :
    Exists fun first => Exists fun later => Exists fun a => Exists fun between =>
      moves = first ++ later ∧ Runs part others script state first (.ok a) between ∧
      Runs part others (next a) between later (.ok b) after := by
  rcases of_andThen runs with ⟨first, later, answer, between, rfl, one, two⟩
  cases answer with
  | error failure => cases (of_done two).1
  | ok a => exact ⟨first, later, a, between, rfl, one, two⟩

/-- A run of a single step: others move, the step is taken, and others move again. -/
theorem of_one {act : Act S A} {result : Except Failure A}
    (runs : Runs part others (one act) state moves result after) :
    Exists fun before => Exists fun between => Exists fun later =>
      moves = before ++ ⟨true, between, ((part.perform act).perform between).2⟩ :: later ∧
      ((part.perform act).perform between).1 = result ∧
      Waits others state before between ∧
      Waits others ((part.perform act).perform between).2 later after := by
  rcases of_step runs with ⟨before, between, later, same, waited, ran⟩
  rcases of_done ran with ⟨answered, waits⟩
  exact ⟨before, between, later, same, answered.symm, waited, waits⟩

/-- A run of the steps on a part is a run on the part of the part. -/
theorem of_on {R : Type} {inner : Part S R} {both : Part T R}
    (agree : forall (B : Type) (act : Act R B) (state : T),
      (part.perform (inner.perform act)).perform state = (both.perform act).perform state)
    {script : Script R A} {result : Except Failure A}
    (runs : Runs part others (script.on inner) state moves result after) :
    Runs both others script state moves result after := by
  induction script generalizing state moves with
  | done final =>
      rcases of_done runs with ⟨rfl, waited⟩
      have nothing : Runs both others (.done result : Script R A) after [] result after := .done
      exact List.append_nil moves ▸ wait waited nothing
  | step act next inductionHypothesis =>
      rcases of_step runs with ⟨waits, between, later, rfl, waited, ran⟩
      rw [agree] at ran
      exact agree _ act between ▸ wait waited (.own (inductionHypothesis _ ran))

theorem andThen {script : Script S A} {next : Except Failure A -> Script S B}
    {answer : Except Failure A} {between : T} {later : List (Move T)} {result : Except Failure B}
    (one : Runs part others script state moves answer between)
    (two : Runs part others (next answer) between later result after) :
    Runs part others (script.andThen next) state (moves ++ later) result after := by
  induction one with
  | done => exact two
  | own _ inductionHypothesis => exact .own (inductionHypothesis two)
  | other moved _ inductionHypothesis => exact .other moved (inductionHypothesis two)

theorem bind {script : Script S A} {next : A -> Script S B} {a : A} {between : T}
    {later : List (Move T)} {result : Except Failure B}
    (one : Runs part others script state moves (.ok a) between)
    (two : Runs part others (next a) between later result after) :
    Runs part others (script.bind next) state (moves ++ later) result after :=
  one.andThen two

/-- With nobody else around a script takes its own steps and does what its act does. -/
theorem alone (lawful : part.IsLawful) (others : T -> T -> Prop) (script : Script S A)
    (state : T) : Runs part others script state (script.trace part state)
      ((part.perform script.act).perform state).1
      ((part.perform script.act).perform state).2 := by
  induction script generalizing state with
  | done result =>
      have same : ((part.perform (Script.done result : Script S A).act).perform state).2 = state :=
        lawful.set_get state
      rw [same]
      exact .done
  | step act next inductionHypothesis =>
      have taken : (part.perform (Script.step act next).act).perform state =
          (part.perform (next ((part.perform act).perform state).1).act).perform
            ((part.perform act).perform state).2 := by
        simp only [Part.perform_perform, Script.act, Act.perform_attempt_bind, lawful.get_set,
          lawful.set_set]
      rw [taken]
      exact .own (inductionHypothesis _ _)

end Runs
end Script

/-! ## Scripts in lockstep

Two runs of one piece of work may go on in different places and among different others.  To say
that they come to the same, their scripts are compared step by step: from states that are alike,
a step of the one and the step of the other in its place lead to states that are alike again, and
what follows depends on the two answers.  In the end the results are related as they should be.

Such scripts come to related results among all others, provided that nothing others do on either
side can be told from the states being alike.
-/

namespace Script

variable {S T A B C D : Type}

/-- From alike states, the steps of two scripts lead to alike states and to related results. -/
def Alike (alike : S -> T -> Prop) (ends : Except Failure A -> Except Failure B -> Prop) :
    Script S A -> Script T B -> Prop
  | .done result, .done other => ends result other
  | .step act next, .step twin later => forall state other, alike state other ->
      alike (act.perform state).2 (twin.perform other).2 ∧
        Alike alike ends (next (act.perform state).1) (later (twin.perform other).1)
  | _, _ => False

namespace Alike

variable {alike : S -> T -> Prop} {ends : Except Failure A -> Except Failure B -> Prop}
  {later : Except Failure C -> Except Failure D -> Prop}

theorem one {act : Act S A} {twin : Act T B}
    (steps : forall state other, alike state other ->
      alike (act.perform state).2 (twin.perform other).2 ∧
        ends (act.perform state).1 (twin.perform other).1) :
    Alike alike ends (Script.one act) (Script.one twin) := steps

theorem andThen {script : Script S A} {twin : Script T B}
    {next : Except Failure A -> Script S C} {other : Except Failure B -> Script T D}
    (same : Alike alike ends script twin)
    (goesOn : forall result answer, ends result answer ->
      Alike alike later (next result) (other answer)) :
    Alike alike later (script.andThen next) (twin.andThen other) := by
  induction script generalizing twin with
  | done result =>
      cases twin with
      | done answer => exact goesOn result answer same
      | step act rest => exact False.elim same
  | step act rest inductionHypothesis =>
      cases twin with
      | done answer => exact False.elim same
      | step act_ rest_ =>
          intro state other_ is
          exact ⟨(same state other_ is).1, inductionHypothesis _ (same state other_ is).2⟩

/-- Two answers are related, and neither is a failure. -/
def Answers (related : A -> B -> Prop) (result : Except Failure A) (other : Except Failure B) :
    Prop := Exists fun a => Exists fun b => result = .ok a ∧ other = .ok b ∧ related a b

/-- Scripts that surely answer go on from their answers. -/
theorem bind {related : A -> B -> Prop} {script : Script S A} {twin : Script T B}
    {next : A -> Script S C} {other : B -> Script T D}
    (same : Alike alike (Answers related) script twin)
    (goesOn : forall a b, related a b -> Alike alike later (next a) (other b)) :
    Alike alike later (script.bind next) (twin.bind other) := by
  refine andThen same fun result answer ended => ?_
  rcases ended with ⟨a, b, rfl, rfl, are⟩
  exact goesOn a b are

/-- Scripts may end with the same failure, and go on alike from the same answers. -/
theorem bindSame {script : Script S A} {twin : Script T A} {next : A -> Script S C}
    {other : A -> Script T D} (same : Alike alike Eq script twin)
    (goesOn : forall a, Alike alike later (next a) (other a))
    (fails : forall failure, later (.error failure) (.error failure)) :
    Alike alike later (script.bind next) (twin.bind other) := by
  refine andThen same fun result answer equal => ?_
  subst equal
  cases result with
  | ok a => exact goesOn a
  | error failure => exact fails failure

theorem weaken {wider : Except Failure A -> Except Failure B -> Prop} {script : Script S A}
    {twin : Script T B} (same : Alike alike ends script twin)
    (widens : forall result answer, ends result answer -> wider result answer) :
    Alike alike wider script twin := by
  induction script generalizing twin with
  | done result =>
      cases twin with
      | done answer => exact widens result answer same
      | step act rest => exact False.elim same
  | step act rest inductionHypothesis =>
      cases twin with
      | done answer => exact False.elim same
      | step act_ rest_ =>
          intro state other is
          exact ⟨(same state other is).1, inductionHypothesis _ (same state other is).2⟩

/-- Whatever others do that does not show, alike scripts come to related results. -/
theorem agree {others : S -> S -> Prop} {strangers : T -> T -> Prop} {script : Script S A}
    {twin : Script T B} (same : Alike alike ends script twin)
    (hidden : forall before after other, others before after -> alike before other ->
      alike after other)
    (unseen : forall state before after, strangers before after -> alike state before ->
      alike state after)
    {state after : S} {moves : List (Move S)} {result : Except Failure A}
    {other final : T} {turns : List (Move T)} {answer : Except Failure B}
    (is : alike state other)
    (runs : Runs (Part.whole S) others script state moves result after)
    (goes : Runs (Part.whole T) strangers twin other turns answer final) :
    ends result answer ∧ alike after final := by
  have waited {state after : S} {moves : List (Move S)} (waits : Waits others state moves after)
      (other : T) (is : alike state other) : alike after other := by
    induction waits with
    | nil => exact is
    | cons moved _ inductionHypothesis => exact inductionHypothesis (hidden _ _ _ moved is)
  have idled {other final : T} {turns : List (Move T)} (waits : Waits strangers other turns final)
      (state : S) (is : alike state other) : alike state final := by
    induction waits with
    | nil => exact is
    | cons moved _ inductionHypothesis => exact inductionHypothesis (unseen _ _ _ moved is)
  induction script generalizing twin state moves other turns with
  | done ended =>
      cases twin with
      | step act rest => exact False.elim same
      | done ended_ =>
          rcases Runs.of_done runs with ⟨rfl, waits⟩
          rcases Runs.of_done goes with ⟨rfl, waits_⟩
          exact ⟨same, idled waits_ after (waited waits other is)⟩
  | step act rest inductionHypothesis =>
      cases twin with
      | done ended_ => exact False.elim same
      | step act_ rest_ =>
          rcases Runs.of_step runs with ⟨waits, between, rest, _, before, behind⟩
          rcases Runs.of_step goes with ⟨idle, middle, remaining, _, before_, behind_⟩
          have here := same between middle (idled before_ between (waited before other is))
          exact inductionHypothesis _ here.2 here.1 behind behind_

end Alike
end Script
end Triage
