import Triage.Proofs.Admitted
import Triage.Proofs.Beginning
import Triage.Proofs.Delays

namespace Triage

/-!
# Which comparisons hold

A value that is accepted with one comparison of a criterion is accepted with every comparison that
the criterion allows, and always as the same operand.  Wherever the criterion of a ticket and the
operand have an order, every comparison is decided by it, so exactly one of those that are allowed
holds.

They have an order with two exceptions.  Of different priorities one may lack a rank.  And what is
not a number is not below zero, so it is accepted as a number, yet it has no place among the numbers.
-/

/-! ## Comparisons and orders -/

namespace Comparison

/-- Whether a comparison holds of two things in an order. -/
def holdsAt : Comparison -> Ordering -> Bool
  | equals, order => order == .eq
  | notEquals, order => order != .eq
  | greaterThan, order => order == .gt
  | lessThan, order => order == .lt

/-- The comparison of a scale that holds at an order. -/
def ofOrder : Scale -> Ordering -> Comparison
  | _, .eq => equals
  | .categorical, _ => notEquals
  | _, .gt => greaterThan
  | _, .lt => lessThan

theorem holdsAt_iff {scale : Scale} {comparison : Comparison}
    (allowed : scale.allows comparison = true) (order : Ordering) :
    comparison.holdsAt order = true ↔ comparison = ofOrder scale order := by
  revert allowed
  cases scale <;> cases comparison <;> cases order <;> decide

theorem allows_ofOrder (scale : Scale) (order : Ordering) :
    scale.allows (ofOrder scale order) = true := by
  cases scale <;> cases order <;> rfl

/-- The order of two ranks decides every comparison of them. -/
theorem ofRanks_eq (comparison : Comparison) (actual expected : Nat) :
    comparison.ofRanks actual expected = comparison.holdsAt (compare actual expected) := by
  rw [Bool.eq_iff_iff]
  cases comparison with
  | equals => rw [ofRanks, holdsAt, beq_iff_eq, beq_iff_eq, Nat.compare_eq_eq]
  | notEquals => rw [ofRanks, holdsAt, bne_iff_ne, bne_iff_ne, ne_eq, ne_eq, Nat.compare_eq_eq]
  | greaterThan => rw [ofRanks, holdsAt, decide_eq_true_iff, beq_iff_eq, Nat.compare_eq_gt]
  | lessThan => rw [ofRanks, holdsAt, decide_eq_true_iff, beq_iff_eq, Nat.compare_eq_lt]

/-- The order of a count and a number decides every comparison of them. -/
theorem ofCount_eq (comparison : Comparison) (actual : Nat) {expected : Quantity}
    {place : Quantity.Position} (placed : expected.position? = some place) :
    comparison.ofCount actual expected =
      comparison.holdsAt ((Quantity.Position.at ⟨actual, 0⟩).order place) := by
  have ordered : (Quantity.whole actual).order? expected =
      some ((Quantity.Position.at ⟨actual, 0⟩).order place) :=
    Quantity.order?_eq_some_iff.mpr ⟨_, _, rfl, placed, rfl⟩
  have reversed : expected.order? (.whole actual) =
      some ((Quantity.Position.at ⟨actual, 0⟩).order place).swap :=
    Quantity.order?_eq_some_iff.mpr ⟨_, _, placed, rfl, (Quantity.Position.order_swap _ _).symm⟩
  cases comparison <;>
    simp only [ofCount, Quantity.same, Quantity.lt, ordered, reversed] <;>
    cases (Quantity.Position.at ⟨actual, 0⟩).order place <;> rfl

/-- Nothing that is allowed holds of a count and what is not a number. -/
theorem ofCount_of_unplaced {comparison : Comparison} {expected : Quantity}
    (allowed : Scale.numeric.allows comparison = true) (unplaced : expected.position? = none)
    (actual : Nat) : comparison.ofCount actual expected = false := by
  cases comparison with
  | notEquals => cases allowed
  | _ => simp [ofCount, Quantity.same, Quantity.lt, Quantity.order?, unplaced]

end Comparison

namespace PriorityScale

variable {scale : PriorityScale} {name other : String} {names : List String} {rank : Nat}

/-- A rank is the place of its name, also where names are repeated. -/
theorem getElem?_of_lastIndex? (found : lastIndex? name names = some rank) :
    names[rank]? = some name := by
  induction names generalizing rank with
  | nil => cases found
  | cons first rest inductionHypothesis =>
      rw [lastIndex?] at found
      cases later : lastIndex? name rest with
      | some position =>
          rw [later] at found
          cases found
          exact inductionHypothesis later
      | none =>
          rw [later] at found
          by_cases same : first = name
          · rw [if_pos same] at found
            cases found
            exact congrArg some same
          · rw [if_neg same] at found
            cases found

theorem eq_of_rank? (found : scale.rank? name = some rank)
    (found_ : scale.rank? other = some rank) : name = other :=
  Option.some.inj ((getElem?_of_lastIndex? found).symm.trans (getElem?_of_lastIndex? found_))

end PriorityScale

/-- A number is only accepted where something is counted. -/
theorem Operand.numeric_of_check {criterion : Criterion} {value : Value} {expected : Quantity}
    (checked : check criterion value = .good (.number expected)) : criterion.scale = .numeric := by
  by_contra textual
  rcases text_of_check textual checked with ⟨_, same⟩
  cases same

/-- A ticket and an operand can be compared: a number has a place, and a priority is that of the ticket
or both have a rank. -/
def Operand.IsComparable (criterion : Criterion) (scale : PriorityScale) (ticket : Ticket) :
    Operand -> Prop
  | .number expected => expected.position? ≠ none
  | .text expected => criterion = .priority -> ticket.reading .priority = expected ∨
      (scale.holds (ticket.reading .priority) = true ∧ scale.holds expected = true)

namespace Condition

/-! ## Accepted values -/

/-- A condition as it is written: the names of a criterion and of a comparison, and a value. -/
def written (criterion : Criterion) (comparison : Comparison) (value : Value) : Value :=
  .record [
    ("field", .text criterion.name),
    ("operator", .text comparison.name),
    ("value", value)]

variable {criterion : Criterion} {comparison : Comparison} {value : Value} {condition : Condition}

theorem make_written_eq_ok_iff : make (written criterion comparison value) = .ok condition ↔
    criterion.scale.allows comparison = true ∧ Exists fun operand =>
      Operand.check criterion value = .good operand ∧
      condition = ⟨criterion, comparison, operand⟩ := by
  have looksAt : Field.required (written criterion comparison value) "field"
      (Field.choice Criterion.all Criterion.name) = .good criterion := by
    have named : (written criterion comparison value).get? "field" = some (.text criterion.name) := by
      simp [written]
    refine Field.required_of_get? named ?_
    cases criterion <;> rfl
  have compares : Field.required (written criterion comparison value) "operator"
      (Field.choice Comparison.all Comparison.name) = .good comparison := by
    have named : (written criterion comparison value).get? "operator" =
        some (.text comparison.name) := by simp [written]
    refine Field.required_of_get? named ?_
    cases comparison <;> rfl
  have found : (written criterion comparison value).get? "value" = some value := by
    simp [written]
  rw [make, Field.Checked.outcome_eq_ok_iff]
  simp only [check, looksAt, compares, Field.Checked.map_good, Field.Checked.seq_good]
  constructor
  · intro checked
    rcases Field.Checked.andThen_eq_good_iff.mp checked with ⟨made, built, allowed⟩
    rcases Field.Checked.seq_eq_good_iff.mp built with ⟨_, named, operand, given, rfl⟩
    cases named
    rcases Field.required_eq_good_iff.mp given with ⟨_, same, accepted⟩
    cases found.symm.trans same
    unfold checkComparison at allowed
    split at allowed
    next fits =>
        cases allowed
        exact ⟨fits, operand, accepted, rfl⟩
    next => cases allowed
  · rintro ⟨fits, operand, accepted, rfl⟩
    have given : Field.required (written criterion comparison value) "value"
        (checkOperand (.good criterion)) = .good operand :=
      Field.required_of_get? found accepted
    rw [given, Field.Checked.seq_good, Field.Checked.andThen_good]
    exact if_pos fits

/-- A value that is accepted with a comparison is accepted, as the same operand, with all others. -/
theorem make_other (accepted : make (written criterion comparison value) = .ok condition)
    {other : Comparison} (allowed : criterion.scale.allows other = true) :
    make (written criterion other value) = .ok ⟨criterion, other, condition.operand⟩ := by
  rcases make_written_eq_ok_iff.mp accepted with ⟨_, operand, checked, rfl⟩
  exact make_written_eq_ok_iff.mpr ⟨allowed, operand, checked, rfl⟩

theorem operand_of_make (accepted : make (written criterion comparison value) = .ok condition) :
    Operand.check criterion value = .good condition.operand := by
  rcases make_written_eq_ok_iff.mp accepted with ⟨_, operand, checked, rfl⟩
  exact checked

/-- An accepted condition is evaluated by comparing its criterion with its operand. -/
theorem evaluate_of_make (accepted : make (written criterion comparison value) = .ok condition)
    (scale : PriorityScale) (ticket : Ticket) (now : Instant) :
    condition.evaluate scale ticket now =
      compareWith scale criterion comparison condition.operand.toValue ticket now := by
  rcases make_written_eq_ok_iff.mp accepted with ⟨allowed, operand, _, rfl⟩
  exact if_pos allowed

variable {scale : PriorityScale} {ticket : Ticket}

/-! ## Texts and priorities -/

/-- Texts compare like things that are equal or not. -/
theorem ofTexts_eq (allowed : Scale.categorical.allows comparison = true) (actual expected : String) :
    comparison.ofTexts actual expected =
      comparison.holdsAt (if actual = expected then .eq else .lt) := by
  cases comparison with
  | greaterThan | lessThan => cases allowed
  | equals | notEquals =>
      by_cases same : actual = expected
      · rw [if_pos same, same]
        simp [Comparison.ofTexts, Comparison.holdsAt]
      · rw [if_neg same, Bool.eq_iff_iff]
        simp [Comparison.ofTexts, Comparison.holdsAt, same]

/-- Priorities with ranks compare as their ranks do, for equality as well. -/
theorem comparePriority_of_ranks {actual expected : String} {rank other : Nat}
    (found : scale.rank? actual = some rank) (found_ : scale.rank? expected = some other) :
    comparePriority scale comparison actual expected =
      .ok (comparison.holdsAt (compare rank other)) := by
  rw [comparePriority, found, found_]
  by_cases forEquality : comparison = .equals
  · rw [forEquality, if_pos (beq_self_eq_true _), Comparison.holdsAt]
    refine congrArg Except.ok (Bool.eq_iff_iff.mpr ?_)
    rw [beq_iff_eq, beq_iff_eq, Nat.compare_eq_eq]
    constructor
    · rintro rfl
      exact Option.some.inj (found.symm.trans found_)
    · rintro rfl
      exact PriorityScale.eq_of_rank? found found_
  · rw [if_neg (by simpa using forEquality)]
    exact congrArg Except.ok (Comparison.ofRanks_eq comparison rank other)

/-- A priority is equal to itself, and neither above nor below, whether it has a rank or not. -/
theorem comparePriority_self_iff (allowed : Scale.ordinal.allows comparison = true) (name : String) :
    comparePriority scale comparison name name = .ok true ↔ comparison.holdsAt .eq = true := by
  cases known : scale.rank? name with
  | some rank =>
      rw [comparePriority_of_ranks known known, Nat.compare_eq_eq.mpr rfl, Except.ok.injEq]
  | none =>
      cases comparison with
      | equals => simp [comparePriority, Comparison.holdsAt]
      | notEquals => cases allowed
      | greaterThan | lessThan => simp [comparePriority, known, Comparison.holdsAt]

/-- Nothing holds of two priorities of which one has no rank. -/
theorem comparePriority_ne_true {actual expected : String} (different : actual ≠ expected)
    (unranked : ¬(scale.holds actual = true ∧ scale.holds expected = true)) :
    comparePriority scale comparison actual expected ≠ .ok true := by
  unfold comparePriority
  split
  · rw [beq_eq_false_iff_ne.mpr different]
    nofun
  · split
    · nofun
    · nofun
    next rank other found found_ =>
        exact absurd ⟨Option.isSome_of_eq_some found, Option.isSome_of_eq_some found_⟩ unranked

/-! ## One comparison holds -/

theorem compareWith_number (numeric : criterion.scale = .numeric) (expected : Quantity)
    (now : Instant) : compareWith scale criterion comparison (.number expected) ticket now =
      .ok (comparison.ofCount (ticket.elapsed criterion now) expected) := by
  cases criterion with
  | ageDays | hoursSinceUpdate => rfl
  | _ => cases numeric

theorem compareWith_text (categorical : criterion.scale = .categorical) (scale : PriorityScale)
    (ticket : Ticket) : Exists fun actual => forall comparison expected now,
      compareWith scale criterion comparison (.text expected) ticket now =
        .ok (comparison.ofTexts actual expected) := by
  cases criterion with
  | status => exact ⟨ticket.reading .status, fun _ _ _ => rfl⟩
  | assignee => exact ⟨ticket.reading .assignee, fun _ _ _ => rfl⟩
  | company => exact ⟨ticket.reading .company, fun _ _ _ => rfl⟩
  | category => exact ⟨ticket.reading .category, fun _ _ _ => rfl⟩
  | _ => cases categorical

/-- What can be compared has an order that decides every comparison of the criterion. -/
theorem exists_order {operand : Operand} (checked : Operand.check criterion value = .good operand)
    (comparable : operand.IsComparable criterion scale ticket) (now : Instant) :
    Exists fun order => forall comparison, criterion.scale.allows comparison = true ->
      (compareWith scale criterion comparison operand.toValue ticket now = .ok true ↔
        comparison.holdsAt order = true) := by
  cases kind : criterion.scale with
  | numeric =>
      rcases Operand.number_of_check kind checked with ⟨expected, rfl⟩
      rcases Option.ne_none_iff_exists'.mp comparable with ⟨place, placed⟩
      refine ⟨(Quantity.Position.at ⟨ticket.elapsed criterion now, 0⟩).order place,
        fun comparison _ => ?_⟩
      rw [Operand.toValue, compareWith_number kind, Comparison.ofCount_eq comparison _ placed,
        Except.ok.injEq]
  | categorical =>
      rcases Operand.text_of_check (by simp [kind]) checked with ⟨expected, rfl⟩
      rcases compareWith_text kind scale ticket with ⟨actual, compares⟩
      refine ⟨if actual = expected then .eq else .lt, fun comparison allowed => ?_⟩
      rw [Operand.toValue, compares, ofTexts_eq allowed, Except.ok.injEq]
  | ordinal =>
      rcases Operand.text_of_check (by simp [kind]) checked with ⟨expected, rfl⟩
      cases criterion with
      | priority =>
          rcases comparable rfl with same | ⟨onScale, onScale_⟩
          · refine ⟨.eq, fun comparison allowed => ?_⟩
            change comparePriority scale comparison (ticket.reading .priority) expected = _ ↔ _
            rw [same, comparePriority_self_iff allowed]
          · rcases Option.isSome_iff_exists.mp onScale with ⟨rank, found⟩
            rcases Option.isSome_iff_exists.mp onScale_ with ⟨other, found_⟩
            refine ⟨compare rank other, fun comparison _ => ?_⟩
            change comparePriority scale comparison (ticket.reading .priority) expected = _ ↔ _
            rw [comparePriority_of_ranks found found_, Except.ok.injEq]
      | _ => cases kind

/-- Of what cannot be compared nothing that is allowed holds. -/
theorem compareWith_ne_true {operand : Operand} (allowed : criterion.scale.allows comparison = true)
    (checked : Operand.check criterion value = .good operand)
    (incomparable : ¬operand.IsComparable criterion scale ticket) (now : Instant) :
    compareWith scale criterion comparison operand.toValue ticket now ≠ .ok true := by
  cases operand with
  | number expected =>
      have numeric := Operand.numeric_of_check checked
      have unplaced : expected.position? = none := not_not.mp incomparable
      rw [numeric] at allowed
      rw [Operand.toValue, compareWith_number numeric,
        Comparison.ofCount_of_unplaced allowed unplaced]
      simp
  | text expected =>
      rcases Classical.not_imp.mp incomparable with ⟨rfl, unranked⟩
      rcases not_or.mp unranked with ⟨different, unranked⟩
      exact comparePriority_ne_true different unranked

/-- A value that is accepted with one comparison is accepted, as the same operand, with all that the
criterion allows.  Exactly one of them holds if the value and the ticket can be compared, and only
then. -/
theorem one_comparison_holds_iff
    (accepted : make (written criterion comparison value) = .ok condition) :
    (forall other, criterion.scale.allows other = true ->
      make (written criterion other value) = .ok ⟨criterion, other, condition.operand⟩) ∧
    forall scale ticket now,
      ((∃! other, criterion.scale.allows other = true ∧
        evaluate ⟨criterion, other, condition.operand⟩ scale ticket now = .ok true) ↔
      condition.operand.IsComparable criterion scale ticket) := by
  have checked := operand_of_make accepted
  refine ⟨fun other => make_other accepted, fun scale ticket now => ⟨?_, fun comparable => ?_⟩⟩
  · rintro ⟨other, ⟨allowed, holds⟩, _⟩
    by_contra incomparable
    rw [evaluate_of_make (make_other accepted allowed)] at holds
    exact compareWith_ne_true allowed checked incomparable now holds
  · rcases exists_order checked comparable now with ⟨order, decides⟩
    have evaluates (other : Comparison) (allowed : criterion.scale.allows other = true) :
        evaluate ⟨criterion, other, condition.operand⟩ scale ticket now = .ok true ↔
          other = .ofOrder criterion.scale order := by
      rw [evaluate_of_make (make_other accepted allowed), decides other allowed]
      exact Comparison.holdsAt_iff allowed order
    have allowed := Comparison.allows_ofOrder criterion.scale order
    exact ⟨_, ⟨allowed, (evaluates _ allowed).mpr rfl⟩, fun other both =>
      (evaluates other both.1).mp both.2⟩

/-- Exactly one comparison holds of the age of a ticket and two and a half days. -/
theorem one_comparison_holds_of_fraction : Exists fun condition =>
    make (written .ageDays .equals (.text "2.5")) = .ok condition ∧
    ∃! other, Scale.numeric.allows other = true ∧
      evaluate ⟨.ageDays, other, condition.operand⟩ .standard Sample.ticket Sample.noon.instant =
        .ok true := by
  have accepted : (make (written .ageDays .equals (.text "2.5"))).toOption.any (fun condition =>
      match condition.operand with
      | .number expected => expected.position?.isSome
      | .text _ => false) = true := by rfl
  rcases (Option.any_eq_true _ _).mp accepted with ⟨⟨criterion, comparison, operand⟩, some, placed⟩
  have made := Result.toOption_eq_some_iff.mp some
  refine ⟨_, made, ((one_comparison_holds_iff made).2 .standard Sample.ticket _).mpr ?_⟩
  cases operand with
  | number expected => exact Option.ne_none_iff_isSome.mpr placed
  | text _ => cases placed

/-- What is not a number is accepted although it is not at least zero, and then no comparison that is
allowed holds. -/
theorem no_comparison_holds : Exists fun expected =>
    make (written .ageDays .equals (.text "nan")) = .ok ⟨.ageDays, .equals, .number expected⟩ ∧
    (Quantity.whole 0).le expected = false ∧
    forall other, Scale.numeric.allows other = true ->
      evaluate ⟨.ageDays, other, .number expected⟩ .standard Sample.ticket Sample.noon.instant =
        .ok false := by
  have accepted : (make (written .ageDays .equals (.text "nan"))).toOption.any (fun condition =>
      match condition.operand with
      | .number expected => expected.position?.isNone
      | .text _ => false) = true := by rfl
  rcases (Option.any_eq_true _ _).mp accepted with ⟨⟨criterion, comparison, operand⟩, some, unplaced⟩
  have made := Result.toOption_eq_some_iff.mp some
  rcases make_written_eq_ok_iff.mp made with ⟨_, _, _, same⟩
  cases same
  cases operand with
  | number expected =>
      have nowhere := Option.isNone_iff_eq_none.mp unplaced
      refine ⟨expected, made, ?_, fun other allowed => ?_⟩
      · simp [Quantity.le, Quantity.order?, nowhere]
      · rw [evaluate_of_make (make_other made allowed)]
        have counted := Comparison.ofCount_of_unplaced allowed nowhere
          (Sample.ticket.elapsed .ageDays Sample.noon.instant)
        exact congrArg Except.ok counted
  | text _ => cases unplaced

end Condition
end Triage
