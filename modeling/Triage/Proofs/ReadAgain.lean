import Triage.Proofs.SoundRules

namespace Triage

/-!
# Definitions that are read again

A definition may leave out when its rule was created and changed, and then both count as the time at
which it is read.  Nothing else of a definition depends on that time.  Read at two times, it is
refused twice in the same words, or it makes two rules that differ in these moments at most; and so
do the files of a directory, one by one and together.
-/

namespace Rule

/-- A rule without the times of its creation and of its last change. -/
def undated (rule : Rule) : Rule := { rule with createdAt := default, updatedAt := none }

/-- A rule that was created and changed at other times. -/
def redated (createdAt : Instant) (updatedAt : Option Instant) (rule : Rule) : Rule :=
  { rule with createdAt, updatedAt }

theorem redated_of_undated {rule other : Rule} (same : rule.undated = other.undated) :
    other = rule.redated other.createdAt other.updatedAt := by
  cases rule
  cases other
  simp only [undated, Rule.mk.injEq] at same
  simp only [redated, Rule.mk.injEq]
  simp only [same, and_self]

namespace Definition

variable {now later : Instant} {definition : Value}

/-- An entry that counts as the time of reading where it holds nothing passes a check of moments at
any time, or else fails it in the same way. -/
theorem orElse_alike {A : Type} {check : Value -> Field.Checked A}
    (passes : forall instant, Exists fun a => check (.stamp (.ofInstant instant)) = .good a)
    (now later : Instant) (given : Value) :
    Field.Checked.Alike (fun _ _ => True) (check (orElse given (.stamp (.ofInstant now))))
      (check (orElse given (.stamp (.ofInstant later)))) := by
  unfold orElse
  split
  next => exact (Field.Checked.Alike.of_eq rfl).mono fun _ _ _ => trivial
  next =>
      rcases passes now with ⟨_, first⟩
      rcases passes later with ⟨_, second⟩
      rw [first, second]
      exact .good trivial

/-- The time at which a definition is read decides at most the times of the rule that it makes. -/
theorem checkWith_alike (now later : Instant) (definition : Value) (conditions : List Condition)
    (actions : List Action) :
    Field.Checked.Alike (fun one other => one.undated = other.undated)
      (checkWith (.good conditions) (.good actions) (recordOf now definition))
      (checkWith (.good conditions) (.good actions) (recordOf later definition)) := by
  have required {A : Type} {name : String} {check : Value -> Field.Checked A} {value : Value}
      (first : (recordOf now definition).get? name = some value)
      (second : (recordOf later definition).get? name = some value) :
      Field.Checked.Alike Eq (Field.required (recordOf now definition) name check)
        (Field.required (recordOf later definition) name check) :=
    .of_eq (by rw [Field.required, Field.required, first, second])
  have optional {A : Type} {name : String} {absent : A} {check : Value -> Field.Checked A}
      (same : (recordOf now definition).get? name = (recordOf later definition).get? name) :
      Field.Checked.Alike Eq (Field.optional (recordOf now definition) name absent check)
        (Field.optional (recordOf later definition) name absent check) :=
    .of_eq (by rw [Field.optional, Field.optional, same])
  have id (now : Instant) : (recordOf now definition).get? "id" =
      some (.text (entry definition "id").display) := by simp [recordOf]
  have name (now : Instant) : (recordOf now definition).get? "name" =
      some (entry definition "name") := by simp [recordOf]
  have created (now : Instant) : (recordOf now definition).get? "created_at" =
      some (orElse (entry definition "created_at") (.stamp (.ofInstant now))) := by simp [recordOf]
  have updated (now : Instant) : (recordOf now definition).get? "updated_at" =
      some (orElse (entry definition "updated_at") (.stamp (.ofInstant now))) := by simp [recordOf]
  have createdAt : Field.Checked.Alike (fun _ _ => True)
      (Field.required (recordOf now definition) "created_at" Field.moment)
      (Field.required (recordOf later definition) "created_at" Field.moment) := by
    rw [Field.required, Field.required, created now, created later]
    exact (orElse_alike (fun instant => ⟨_, Field.moment_ofInstant instant⟩) now later _).under _
  have updatedAt : Field.Checked.Alike (fun _ _ => True)
      (Field.optional (recordOf now definition) "updated_at" none (Field.nullable Field.moment))
      (Field.optional (recordOf later definition) "updated_at" none
        (Field.nullable Field.moment)) := by
    rw [Field.optional, Field.optional, updated now, updated later]
    exact (orElse_alike (fun instant => ⟨_, Field.nullable_moment_ofInstant instant⟩)
      now later _).under _
  refine .seq (.seq (.seq (.seq (.seq (.seq (.seq (.seq (.seq (.map
    (required (id now) (id later)) ?_) (required (name now) (name later)))
    (optional (by simp [recordOf]))) (.of_eq rfl)) (.of_eq rfl)) (optional (by simp [recordOf])))
    (optional (by simp [recordOf]))) createdAt) updatedAt) (optional (by simp [recordOf]))
  rintro id _ rfl name _ rfl description _ rfl conditions _ rfl actions _ rfl isActive _ rfl
    version _ rfl createdAt _ _ updatedAt _ _ lastExecutedAt _ rfl
  rfl

theorem worded_alike {A B : Type} {R : A -> B -> Prop} {model what name : String} {shown : Value}
    {checked : Field.Checked A} {other : Field.Checked B} (alike : checked.Alike R other) :
    Result.Alike R (worded model what name shown checked) (worded model what name shown other) := by
  cases alike with
  | good related => exact .ok related
  | faulty faults => exact .error _
  | ended failure => cases failure <;> exact .error _

/-- A definition that is read at another time is refused in the same way, or makes the same rule
apart from its times. -/
theorem read_alike (now later : Instant) (definition : Value) :
    Result.Alike (fun one other => one.undated = other.undated)
      (Definition.read now definition) (Definition.read later definition) := by
  unfold Definition.read
  split
  · exact .error _
  · refine .bind _ fun id identified => .bind _ fun name named => .bind _ fun _ _ =>
      .bind _ fun conditions _ => .bind _ fun _ _ => .bind _ fun actions _ => ?_
    rcases someEntry_eq_ok identified with ⟨rfl, _⟩
    rcases someEntry_eq_ok named with ⟨rfl, _⟩
    exact worded_alike (checkWith_alike now later definition conditions actions)

end Definition

namespace File

theorem read_alike (now later : Instant) (path text : String) :
    Result.Alike (fun one other => one.undated = other.undated)
      (File.read now path text) (File.read later path text) := by
  unfold File.read
  split
  next => exact .error _
  next => exact .error _
  next =>
      split
      next => exact Definition.read_alike now later _
      next => exact .error _

end File

namespace Directory

theorem readFiles_alike (now later : Instant) (path : String) (files : Directory) :
    Result.Alike (List.Forall₂ fun one other => one.undated = other.undated)
      (readFiles now path files) (readFiles later path files) := by
  induction files with
  | nil => exact .ok .nil
  | cons file files inductionHypothesis =>
      rw [readFiles, readFiles]
      rcases (File.read_alike now later (path ++ "/" ++ file.1) file.2).inversion with
        ⟨one, other, first, second, same⟩ | ⟨failure, first, second⟩
      · rw [first, second]
        rcases inductionHypothesis.inversion with
          ⟨ones, others, front, back, rest⟩ | ⟨failure, front, back⟩
        · simp only [front, back]
          exact .ok (.cons same rest)
        · simp only [front, back]
          exact .error failure
      · rw [first, second]
        simp only
        split
        next => exact inductionHypothesis
        next => exact .error failure

/-- Whatever a directory is, it is read alike at any time. -/
theorem read_alike (now later : Instant) (path : String) (files : Option Directory) :
    Result.Alike (List.Forall₂ fun one other => one.undated = other.undated)
      (Directory.read now path files) (Directory.read later path files) := by
  cases files with
  | none => exact .error _
  | some files => exact readFiles_alike now later path _

/-- The files of a directory whose definitions are refused, with the reasons. -/
def refused (now : Instant) (path : String) (files : Option Directory) :
    List (String × Failure) :=
  ((files.map ruleFiles).getD []).filterMap fun file =>
    match File.read now (path ++ "/" ++ file.1) file.2 with
    | .ok _ => none
    | .error failure => some (file.1, failure)

theorem refused_eq (now later : Instant) (path : String) (files : Option Directory) :
    refused now path files = refused later path files := by
  refine congrArg (((files.map ruleFiles).getD []).filterMap ·) (funext fun file => ?_)
  rcases (File.read_alike now later (path ++ "/" ++ file.1) file.2).inversion with
    ⟨one, other, first, second, _⟩ | ⟨failure, first, second⟩ <;> rw [first, second]

end Directory
end Rule
end Triage
