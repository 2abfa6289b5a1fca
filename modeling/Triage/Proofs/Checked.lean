import Mathlib.Data.List.Forall2
import Triage.Field.Moment

namespace Triage

/-!
# When a result is there and a check is good

A result that is made of others is there exactly when each of them is.

A check of a record is put together from checks of its fields.  It is good exactly when each of
them is, so a check can be opened field by field without a word about the faults it would have
gathered.  Entries of a record are found by their names.

Where two checks are compared, the faults do count: they go the same way if both are good, or if
both have the same faults.
-/

namespace Result

variable {E A B C : Type}

@[simp]
theorem ok_bind (a : A) (next : A -> Except E B) : (Except.ok a >>= next) = next a := rfl

@[simp]
theorem error_bind (fault : E) (next : A -> Except E B) :
    (Except.error fault >>= next) = .error fault := rfl

theorem bind_eq_ok_iff {result : Except E A} {next : A -> Except E B} {b : B} :
    (result >>= next) = .ok b ↔ Exists fun a => result = .ok a ∧ next a = .ok b := by
  cases result <;> simp

/-- A check and what comes after it come to something when the check passes. -/
theorem check_eq_ok_iff {check : Except E Unit} {next : Except E B} {b : B} :
    (check >>= fun _ => next) = .ok b ↔ check = .ok () ∧ next = .ok b := by
  cases check <;> simp

theorem toOption_eq_some_iff {result : Except E A} {a : A} :
    result.toOption = some a ↔ result = .ok a := by
  cases result <;> simp [Except.toOption]

theorem mapError_eq_ok_iff {F : Type} {replace : E -> F} {result : Except E A} {a : A} :
    result.mapError replace = .ok a ↔ result = .ok a := by
  cases result with
  | error fault => exact ⟨nofun, nofun⟩
  | ok answer =>
      constructor
      · exact fun same => congrArg Except.ok (Except.ok.inj same)
      · exact fun same => congrArg Except.ok (Except.ok.inj same)

/-- Results that are all there come together. -/
theorem mapM_eq_ok {read : A -> Except E B} {items : List A} {answers : List B}
    (each : List.Forall₂ (fun a b => read a = .ok b) items answers) :
    items.mapM read = .ok answers := by
  induction each with
  | nil => rfl
  | cons first _ inductionHypothesis =>
      rw [List.mapM_cons, first, ok_bind, inductionHypothesis]
      rfl

theorem mapM_congr {read other : A -> Except E B} {items : List A}
    (same : forall a, a ∈ items -> read a = other a) : items.mapM read = items.mapM other := by
  induction items with
  | nil => rfl
  | cons a items inductionHypothesis =>
      rw [List.mapM_cons, List.mapM_cons, same a List.mem_cons_self,
        inductionHypothesis fun b member => same b (List.mem_cons_of_mem a member)]

/-- What comes together was there item by item. -/
theorem forall₂_of_mapM_eq_ok {read : A -> Except E B} {items : List A} {answers : List B}
    (together : items.mapM read = .ok answers) :
    List.Forall₂ (fun a b => read a = .ok b) items answers := by
  induction items generalizing answers with
  | nil =>
      cases together
      exact .nil
  | cons a rest inductionHypothesis =>
      rw [List.mapM_cons] at together
      rcases bind_eq_ok_iff.mp together with ⟨b, first, later⟩
      rcases bind_eq_ok_iff.mp later with ⟨others, remaining, ended⟩
      cases ended
      exact .cons first (inductionHypothesis remaining)

/-- A result that is a failure of a kind. -/
def FailsAs (kind : E -> Prop) (result : Except E A) : Prop :=
  Exists fun failure => result = .error failure ∧ kind failure

namespace FailsAs

variable {kind : E -> Prop}

@[simp]
theorem ok_iff {a : A} : FailsAs kind (.ok a) ↔ False := ⟨nofun, nofun⟩

@[simp]
theorem error_iff {failure : E} :
    FailsAs kind (.error failure : Except E A) ↔ kind failure :=
  ⟨fun ⟨_, same, is⟩ => Except.error.inj same ▸ is, fun is => ⟨failure, rfl, is⟩⟩

@[simp]
theorem map_iff {result : Except E A} {change : A -> B} :
    FailsAs kind (result.map change) ↔ FailsAs kind result := by
  cases result <;> simp [Except.map]

/-- Two steps fail where the first one does, or the second one after the first one. -/
theorem bind_iff {result : Except E A} {next : A -> Except E B} :
    FailsAs kind (result >>= next) ↔
      FailsAs kind result ∨ Exists fun a => result = .ok a ∧ FailsAs kind (next a) := by
  cases result <;> simp

end FailsAs

/-- Two results go the same way: both are there, with related values, or both failed alike. -/
inductive Alike (R : A -> B -> Prop) : Except E A -> Except E B -> Prop
  | ok {a : A} {b : B} (related : R a b) : Alike R (.ok a) (.ok b)
  | error (failure : E) : Alike R (.error failure) (.error failure)

theorem Alike.inversion {R : A -> B -> Prop} {one : Except E A} {other : Except E B}
    (alike : Alike R one other) :
    (Exists fun a => Exists fun b => one = .ok a ∧ other = .ok b ∧ R a b) ∨
      Exists fun failure => one = .error failure ∧ other = .error failure := by
  cases alike with
  | ok related => exact .inl ⟨_, _, rfl, rfl, related⟩
  | error failure => exact .inr ⟨failure, rfl, rfl⟩

theorem Alike.bind {R : A -> B -> Prop} (result : Except E C) {next : C -> Except E A}
    {other : C -> Except E B} (alike : forall c, result = .ok c -> Alike R (next c) (other c)) :
    Alike R (result >>= next) (result >>= other) := by
  cases result with
  | ok c => exact alike c rfl
  | error failure => exact .error failure

end Result

namespace Value

@[simp]
theorem get?_record_nil (name : String) : (record []).get? name = none := rfl

@[simp]
theorem get?_record_cons (name key : String) (value : Value) (rest : List (String × Value)) :
    (record ((key, value) :: rest)).get? name =
      if key == name then some value else (record rest).get? name := by
  cases same : key == name <;> simp only [get?, record, List.map_cons, List.find?_cons, sameKey,
    same, Option.map_some, if_true, Bool.false_eq_true, if_false]

end Value

namespace Field
namespace Checked

variable {A B C D : Type}

theorem map_eq_good_iff {f : A -> B} {checked : Checked A} {b : B} :
    f <$> checked = good b ↔ Exists fun a => checked = good a ∧ f a = b := by
  change map f checked = good b ↔ _
  cases checked <;> simp [map]

theorem seq_eq_good_iff {f : Checked (A -> B)} {checked : Checked A} {b : B} :
    f <*> checked = good b ↔
      Exists fun step => f = good step ∧ Exists fun a => checked = good a ∧ step a = b := by
  change map (fun pair => pair.1 pair.2) (both f checked) = good b ↔ _
  cases f <;> cases checked <;> simp [map, both]

@[simp]
theorem map_good (f : A -> B) (a : A) : f <$> good a = good (f a) := rfl

@[simp]
theorem seq_good (f : A -> B) (a : A) : (good f <*> good a) = good (f a) := rfl

@[simp]
theorem under_eq_good_iff {step : String} {checked : Checked A} {a : A} :
    checked.under step = good a ↔ checked = good a := by
  cases checked <;> simp [under]

@[simp]
theorem under_good (step : String) (a : A) : (good a).under step = good a := rfl

theorem andThen_eq_good_iff {checked : Checked A} {next : A -> Checked B} {b : B} :
    checked.andThen next = good b ↔ Exists fun a => checked = good a ∧ next a = good b := by
  cases checked <;> simp [andThen]

@[simp]
theorem andThen_good (a : A) (next : A -> Checked B) : (good a).andThen next = next a := rfl

@[simp]
theorem outcome_good (model : String) (a : A) : (good a).outcome model = .ok a := rfl

/-- Items that are all good make a good list. -/
theorem items_map_eq_good {check : Value -> Checked A} {write : A -> Value} {members : List A}
    (each : forall a, a ∈ members -> check (write a) = good a) (position : Nat) :
    items check position (members.map write) = good members := by
  induction members generalizing position with
  | nil => rfl
  | cons a rest inductionHypothesis =>
      have first := each a List.mem_cons_self
      have later := inductionHypothesis
        (fun other member => each other (List.mem_cons_of_mem a member)) (position + 1)
      rw [List.map_cons, items, first, later]
      rfl

/-- Every member of a good list has been checked. -/
theorem of_items_eq_good {check : Value -> Checked A} {position : Nat} {values : List Value}
    {members : List A} (checked : items check position values = good members) :
    forall a, a ∈ members -> Exists fun value => check value = good a := by
  induction values generalizing position members with
  | nil =>
      intro a member
      cases checked
      cases member
  | cons value rest inductionHypothesis =>
      rcases map_eq_good_iff.mp (checked : _ <$> both _ _ = good members) with ⟨pair, parts, rfl⟩
      rcases first : (check value).under (toString position) with head | faults | failure <;>
        rcases later : items check (position + 1) rest with tail | faults | failure <;>
        simp only [first, later, both] at parts <;> cases parts
      intro a member
      rcases List.mem_cons.mp member with rfl | behind
      · exact ⟨value, under_eq_good_iff.mp first⟩
      · exact inductionHypothesis later a behind

/-! ## Checks of different records -/

/-- Two checks go the same way: both are good, with related values, or both are not, for the same
reasons. -/
inductive Alike (R : A -> B -> Prop) : Checked A -> Checked B -> Prop
  | good {a : A} {b : B} (related : R a b) : Alike R (.good a) (.good b)
  | faulty (faults : List Fault) : Alike R (.faulty faults) (.faulty faults)
  | ended (failure : Failure) : Alike R (.ended failure) (.ended failure)

namespace Alike

theorem of_eq {one other : Checked A} (same : one = other) : Alike Eq one other := by
  subst same
  cases one with
  | good a => exact .good rfl
  | faulty faults => exact .faulty faults
  | ended failure => exact .ended failure

theorem mono {R S : A -> B -> Prop} {one : Checked A} {other : Checked B}
    (alike : Alike R one other) (wider : forall a b, R a b -> S a b) : Alike S one other := by
  cases alike with
  | good related => exact .good (wider _ _ related)
  | faulty faults => exact .faulty faults
  | ended failure => exact .ended failure

theorem under {R : A -> B -> Prop} {one : Checked A} {other : Checked B}
    (alike : Alike R one other) (step : String) :
    Alike R (one.under step) (other.under step) := by
  cases alike with
  | good related => exact .good related
  | faulty faults => exact .faulty _
  | ended failure => exact .ended failure

theorem map {one : A -> C} {other : B -> D} {R : A -> B -> Prop} {S : C -> D -> Prop}
    {first : Checked A} {second : Checked B} (alike : Alike R first second)
    (related : forall a b, R a b -> S (one a) (other b)) :
    Alike S (one <$> first) (other <$> second) := by
  cases alike with
  | good both => exact .good (related _ _ both)
  | faulty faults => exact .faulty faults
  | ended failure => exact .ended failure

theorem seq {one : Checked (A -> C)} {other : Checked (B -> D)} {R : A -> B -> Prop}
    {S : C -> D -> Prop} {first : Checked A} {second : Checked B}
    (front : Alike (fun f g => forall a b, R a b -> S (f a) (g b)) one other)
    (alike : Alike R first second) : Alike S (one <*> first) (other <*> second) := by
  cases front with
  | good related =>
      cases alike with
      | good both => exact .good (related _ _ both)
      | faulty faults => exact .faulty faults
      | ended failure => exact .ended failure
  | faulty faults =>
      cases alike with
      | good both => exact .faulty faults
      | faulty others => exact .faulty (faults ++ others)
      | ended failure => exact .ended failure
  | ended failure => exact .ended failure

end Alike

end Checked

variable {A : Type} {record : Value} {name : String} {check : Value -> Checked A}

theorem required_eq_good_iff {a : A} :
    required record name check = .good a ↔
      Exists fun value => record.get? name = some value ∧ check value = .good a := by
  rw [required, Checked.under_eq_good_iff]
  cases record.get? name <;> simp [Checked.fault]

theorem required_of_get? {value : Value} {a : A} (found : record.get? name = some value)
    (checked : check value = .good a) : required record name check = .good a :=
  required_eq_good_iff.mpr ⟨value, found, checked⟩

theorem optional_of_get? {value : Value} {absent a : A} (found : record.get? name = some value)
    (checked : check value = .good a) : optional record name absent check = .good a := by
  rw [optional, Checked.under_eq_good_iff, found]
  exact checked

/-- A field that is there passes a check of optional fields exactly when it is good. -/
theorem optional_eq_good_iff {value : Value} {absent a : A} (found : record.get? name = some value) :
    optional record name absent check = .good a ↔ check value = .good a := by
  rw [optional, Checked.under_eq_good_iff, found]

theorem text_text (s : String) : text (.text s) = .good s := rfl

theorem whole_int (n : Int) : whole (.int n) = .good n := rfl

/-- A text that may be missing passes as it is. -/
theorem nullable_textOrNull (content : Option String) :
    nullable text (Value.textOrNull content) = .good content := by
  cases content <;> rfl

/-- A stamp in UTC is the moment of its instant. -/
theorem moment_ofInstant (instant : Instant) :
    moment (.stamp (Stamp.ofInstant instant)) = .good instant := by
  simp only [moment, stamp, Checked.andThen_good, instantOf, Stamp.toInstant?_ofInstant]

theorem nullable_moment_ofInstant (instant : Instant) :
    nullable moment (.stamp (Stamp.ofInstant instant)) = .good (some instant) := by
  change (moment (.stamp (Stamp.ofInstant instant))).map some = _
  rw [moment_ofInstant]
  rfl

end Field
end Triage
