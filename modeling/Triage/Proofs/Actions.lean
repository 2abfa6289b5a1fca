import Mathlib.Data.List.DropRight
import Triage.Database.Tables
import Triage.Proofs.Checked
import Triage.Rule
import Triage.Text.Blank

namespace Triage

/-!
# Clean texts and the targets of actions

Trimming a text twice is trimming it once, and only a text of blanks trims to nothing.  A text is
*clean* when it is its own trimming and not empty: these are the texts that a check which trims
and refuses blanks passes on, and such a check passes on every clean text unchanged.

An action passes its check only with a clean target, and an action with a clean target survives
being stored and read back.  Cleanness matters beyond that: a ticket is read back with its
attributes trimmed and empty ones missing, so only a clean target is what the ticket then reads.
-/

namespace Text

variable {drop : Char -> Bool}

theorem trimOf_eq_rdropWhile (cs : List Char) :
    trimOf drop cs = (cs.dropWhile drop).rdropWhile drop := rfl

/-- What trimming leaves does not begin with a dropped character. -/
theorem dropWhile_trimOf (cs : List Char) : (trimOf drop cs).dropWhile drop = trimOf drop cs := by
  rw [List.dropWhile_eq_self_iff]
  intro nonempty
  have front : trimOf drop cs <+: cs.dropWhile drop := List.rdropWhile_prefix drop _
  have longer : 0 < (cs.dropWhile drop).length := lt_of_lt_of_le nonempty front.length_le
  have same : (trimOf drop cs)[0] = (cs.dropWhile drop)[0] := front.getElem nonempty
  rw [same]
  exact List.dropWhile_get_zero_not drop cs longer

theorem trimOf_trimOf (cs : List Char) : trimOf drop (trimOf drop cs) = trimOf drop cs := by
  rw [trimOf_eq_rdropWhile (trimOf drop cs), dropWhile_trimOf, trimOf_eq_rdropWhile,
    List.rdropWhile_idempotent]

theorem trimOf_eq_nil_iff (cs : List Char) : trimOf drop cs = [] ↔ cs.all drop = true := by
  rw [List.all_eq_true]
  constructor
  · intro empty
    have rest := List.rdropWhile_eq_nil_iff.mp empty
    rw [<- List.takeWhile_append_dropWhile (p := drop) (l := cs)]
    intro c member
    rcases List.mem_append.mp member with front | behind
    · exact List.mem_takeWhile_imp front
    · exact rest c behind
  · intro all
    have nothing : cs.dropWhile drop = [] := List.dropWhile_eq_nil_iff.mpr all
    rw [trimOf_eq_rdropWhile, nothing, List.rdropWhile_nil]

/-- Trimming a trimmed text changes nothing. -/
theorem trim_trim (s : String) : trim (trim s) = trim s := by
  simp only [trim, String.toList_ofList, trimOf_trimOf]

theorem trim_toList (s : String) : (trim s).toList = trimOf isBlank s.toList := by
  simp only [trim, String.toList_ofList]

theorem trim_eq_empty_iff (s : String) : trim s = "" ↔ allBlank s = true := by
  rw [<- String.toList_eq_nil_iff, trim_toList, trimOf_eq_nil_iff, allBlank]

/-! ## Clean texts -/

/-- A text that is trimmed and has something in it. -/
def IsClean (s : String) : Prop := trim s = s ∧ allBlank s = false

instance (s : String) : Decidable (IsClean s) := inferInstanceAs (Decidable (_ ∧ _))

namespace IsClean

variable {s : String}

theorem trim_eq (clean : IsClean s) : trim s = s := clean.1

theorem not_blank (clean : IsClean s) : allBlank s = false := clean.2

theorem ne_empty (clean : IsClean s) : s ≠ "" := by
  intro empty
  have blank := (trim_eq_empty_iff s).mp (clean.trim_eq.trans empty)
  rw [clean.not_blank] at blank
  cases blank

theorem isEmpty_eq_false (clean : IsClean s) : s.isEmpty = false := by
  rw [Bool.eq_false_iff]
  intro empty
  exact clean.ne_empty (String.isEmpty_iff.mp empty)

end IsClean

/-- Whatever is not blank trims to a clean text. -/
theorem isClean_trim {s : String} (written : allBlank s = false) : IsClean (trim s) := by
  refine ⟨trim_trim s, ?_⟩
  rw [Bool.eq_false_iff]
  intro blank
  have empty := (trim_eq_empty_iff (trim s)).mpr blank
  rw [trim_trim, trim_eq_empty_iff, written] at empty
  cases empty

end Text

namespace Action

/-- The target of the action is clean. -/
def IsClean (action : Action) : Prop := Text.IsClean action.target

instance (action : Action) : Decidable action.IsClean :=
  inferInstanceAs (Decidable (Text.IsClean _))

theorem isClean_of_checkTarget {value : Value} {target : String}
    (checked : checkTarget value = .good target) : Text.IsClean target := by
  unfold checkTarget at checked
  split at checked
  · cases checked
  · cases checked
  · split at checked
    next => cases checked
    next written =>
        cases checked
        exact Text.isClean_trim (Bool.eq_false_iff.mpr written)

theorem checkTarget_of_isClean {target : String} (clean : Text.IsClean target) :
    checkTarget (.text target) = .good target := by
  simp only [checkTarget, Value.display, clean.not_blank, clean.trim_eq, Bool.false_eq_true,
    if_false]

theorem choice_kind (kind : Kind) :
    Field.choice Kind.all Kind.name (.text kind.name) = .good kind := by
  cases kind <;> rfl

theorem isClean_of_check {record : Value} {action : Action}
    (checked : check record = .good action) : action.IsClean := by
  rcases Field.Checked.seq_eq_good_iff.mp checked with ⟨build, built, target, accepted, rfl⟩
  rcases Field.Checked.map_eq_good_iff.mp built with ⟨kind, _, rfl⟩
  rcases Field.required_eq_good_iff.mp accepted with ⟨value, _, good⟩
  exact isClean_of_checkTarget good

theorem isClean_of_make {record : Value} {action : Action} (made : make record = .ok action) :
    action.IsClean :=
  isClean_of_check (Field.Checked.outcome_eq_ok_iff.mp made)

/-- A clean action passes its own check. -/
theorem check_toValue {action : Action} (clean : action.IsClean) :
    check action.toValue = .good action := by
  have kind : Field.required action.toValue "type" (Field.choice Kind.all Kind.name) =
      .good action.kind :=
    Field.required_of_get? (by simp [toValue]) (choice_kind action.kind)
  have target : Field.required action.toValue "target_value" checkTarget = .good action.target :=
    Field.required_of_get? (by simp [toValue]) (checkTarget_of_isClean clean)
  rw [check, kind, target]
  rfl

theorem make_toValue {action : Action} (clean : action.IsClean) :
    make action.toValue = .ok action := by
  rw [make, check_toValue clean, Field.Checked.outcome_good]

end Action

namespace Database.Document

variable {A : Type}

/-- What is read from a document was made from its items. -/
theorem exists_of_readAll {model : String} {make : Value -> Except Failure A}
    {document : Document} {members : List A} (read : document.readAll model make = .ok members) :
    forall a, a ∈ members -> Exists fun value => make value = .ok a := by
  rcases Result.bind_eq_ok_iff.mp read with ⟨value, _, rest⟩
  rcases Result.bind_eq_ok_iff.mp rest with ⟨items, _, made⟩
  have pointwise := Result.forall₂_of_mapM_eq_ok made
  intro a member
  rcases List.mem_iff_getElem.mp member with ⟨position, bound, rfl⟩
  have known : position < items.length := pointwise.length_eq ▸ bound
  have at_ := pointwise.get known bound
  rcases Result.bind_eq_ok_iff.mp at_ with ⟨record, _, good⟩
  exact ⟨record, good⟩

/-- What is built from mappings is read back from the document of these mappings. -/
theorem readAll_map (model : String) {make : Value -> Except Failure A} {write : A -> Value}
    {members : List A} (each : forall a, a ∈ members ->
      (mappingFor model (write a) >>= make) = .ok a) :
    (Document.value (.list (members.map write))).readAll model make = .ok members := by
  have items : List.Forall₂ (fun value a => (mappingFor model value >>= make) = .ok a)
      (members.map write) members := by
    rw [List.forall₂_map_left_iff, List.forall₂_same]
    exact each
  exact Result.mapM_eq_ok items

/-- Actions with clean targets are read back from the document they were stored in. -/
theorem readAll_actions (model : String) {actions : List Action}
    (clean : forall action, action ∈ actions -> action.IsClean) :
    (Document.value (.list (actions.map Action.toValue))).readAll model Action.make =
      .ok actions :=
  readAll_map model fun action member => Action.make_toValue (clean action member)

end Database.Document
end Triage
