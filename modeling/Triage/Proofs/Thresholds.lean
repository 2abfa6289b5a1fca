import Mathlib.Algebra.Order.Floor.Ring
import Mathlib.Data.Rat.Floor
import Triage.Proofs.Comparing

namespace Triage

/-!
# The instants at which counted conditions turn

A condition on the age of a ticket, or on the time since its last change, counts whole days or hours
and compares the count with its value.  The count is a quotient rounded down, nothing counts before
the start, and the value may lie between two counts.  For every finite value this comes to one bound
on the distance in microseconds: the value rounded up or down, times the unit.

Such a bound is passed once, so a count that is above a value stays above it, and one that is no
longer below a value is never below it again.
-/

open Number (Scaled twoTo)

/-! ## Exact values -/

namespace Quantity

/-- The exact value of a fraction. -/
def exactly (value : Scaled) : ℚ := value.numerator / (twoTo value.places : Nat)

/-- The exact value of a finite quantity. -/
def rational? (quantity : Quantity) : Option ℚ :=
  match quantity.position? with
  | some (.at value) => some (exactly value)
  | _ => none

theorem rational?_eq_some_iff {quantity : Quantity} {x : ℚ} : quantity.rational? = some x ↔
    Exists fun value => quantity.position? = some (.at value) ∧ exactly value = x := by
  unfold rational?
  cases placed : quantity.position? with
  | none => simp
  | some place => cases place <;> simp

/-- A whole number and a fraction have the order of their exact values. -/
theorem order_whole (n : Int) (value : Scaled) :
    (Position.at ⟨n, 0⟩).order (.at value) = compare (n : ℚ) (exactly value) := by
  have unit : (0 : ℚ) < (twoTo value.places : Nat) := Nat.cast_pos.mpr (Nat.two_pow_pos _)
  have lined : (Position.at ⟨n, 0⟩).order (.at value) =
      compare (n * (twoTo value.places : Nat)) value.numerator := by
    simp [Position.order, Scaled.order]
  rw [lined]
  rcases lt_trichotomy (n : ℚ) (exactly value) with below | same | above
  · rw [compare_lt_iff_lt.mpr below, compare_lt_iff_lt]
    exact_mod_cast (lt_div_iff₀ unit).mp below
  · rw [compare_eq_iff_eq.mpr same, compare_eq_iff_eq]
    exact_mod_cast (eq_div_iff (ne_of_gt unit)).mp same
  · rw [compare_gt_iff_gt.mpr above, compare_gt_iff_gt]
    exact_mod_cast (div_lt_iff₀ unit).mp above

theorem nonneg_of_lt_eq_false {quantity : Quantity} {x : ℚ} (finite : quantity.rational? = some x)
    (notBelow : quantity.lt (.whole 0) = false) : 0 ≤ x := by
  rcases rational?_eq_some_iff.mp finite with ⟨value, placed, rfl⟩
  by_contra below
  refine Bool.eq_false_iff.mp notBelow (lt_iff.mpr ⟨_, _, placed, rfl, ?_⟩)
  have above : (Position.at ⟨0, 0⟩).order (.at value) = .gt := by
    rw [order_whole, compare_gt_iff_gt, Int.cast_zero]
    exact not_le.mp below
  rw [<- Position.order_swap, above]
  rfl

end Quantity

/-- The exact value of an operand that is a finite number. -/
def Operand.rational? : Operand -> Option ℚ
  | .number q => q.rational?
  | .text _ => none

/-- A number is only accepted from zero on. -/
theorem Operand.notBelow_of_check {criterion : Criterion} {value : Value} {q : Quantity}
    (checked : check criterion value = .good (.number q)) : q.lt (.whole 0) = false := by
  have again : checkNumber criterion (.number q) = .good (.number q) := by
    have accepted := check_again checked
    simpa only [check, toValue, numeric_of_check checked] using accepted
  rw [checkNumber, numberOf?] at again
  refine Bool.eq_false_iff.mpr fun below => ?_
  simp only [below, if_true] at again
  cases again

/-! ## Whole units of a distance -/

namespace Instant

variable {unit : Nat} {distance : Int} {x : ℚ}

/-- So many units have passed once their length has; none have always passed. -/
theorem le_unitsIn_iff (positive : 0 < unit) {count : Int} :
    count ≤ unitsIn unit distance ↔ count ≤ 0 ∨ count * unit ≤ distance := by
  rcases lt_or_ge 0 count with some | none
  · rcases Int.eq_ofNat_of_zero_le (Int.le_of_lt some) with ⟨n, rfl⟩
    have length : 0 < n * unit := Nat.mul_pos (by omega) positive
    have reached : n ≤ distance.toNat / unit ↔ n * unit ≤ distance.toNat :=
      Nat.le_div_iff_mul_le positive
    rw [unitsIn, Int.ofNat_le, reached, <- Nat.cast_mul]
    omega
  · exact iff_of_true (by omega) (Or.inl none)

theorem lt_unitsIn_iff (positive : 0 < unit) (nonneg : 0 ≤ x) :
    x < unitsIn unit distance ↔ (⌊x⌋ + 1) * unit ≤ distance := by
  have started : 0 ≤ ⌊x⌋ := Int.floor_nonneg.mpr nonneg
  calc x < unitsIn unit distance
      ↔ ⌊x⌋ < (unitsIn unit distance : Int) := by rw [Int.floor_lt, Int.cast_natCast]
    _ ↔ ⌊x⌋ + 1 ≤ 0 ∨ (⌊x⌋ + 1) * unit ≤ distance := by
        rw [<- le_unitsIn_iff positive, Int.add_one_le_iff]
    _ ↔ (⌊x⌋ + 1) * unit ≤ distance := or_iff_right (by omega)

theorem unitsIn_lt_iff (positive : 0 < unit) :
    unitsIn unit distance < x ↔ 0 < x ∧ distance < ⌈x⌉ * unit := by
  calc unitsIn unit distance < x
      ↔ (unitsIn unit distance : Int) < ⌈x⌉ := by rw [Int.lt_ceil, Int.cast_natCast]
    _ ↔ ¬(⌈x⌉ ≤ 0 ∨ ⌈x⌉ * unit ≤ distance) := by rw [<- le_unitsIn_iff positive, not_le]
    _ ↔ 0 < x ∧ distance < ⌈x⌉ * unit := by
        rw [not_or, not_le, not_le, Int.lt_ceil, Int.cast_zero]

theorem unitsIn_eq_iff (positive : 0 < unit) (nonneg : 0 ≤ x) :
    unitsIn unit distance = x ↔ ⌊x⌋ = x ∧
      (⌊x⌋ * unit ≤ distance ∧ distance < (⌊x⌋ + 1) * unit ∨ x = 0 ∧ distance < 0) := by
  have started : 0 ≤ ⌊x⌋ := Int.floor_nonneg.mpr nonneg
  have whole : unitsIn unit distance = x ↔ ⌊x⌋ = x ∧ ⌊x⌋ = (unitsIn unit distance : Int) := by
    constructor
    · rintro rfl
      exact ⟨by rw [Int.floor_natCast, Int.cast_natCast], Int.floor_natCast _⟩
    · rintro ⟨whole, same⟩
      rw [<- whole, same, Int.cast_natCast]
  rw [whole]
  refine and_congr_right fun whole => ?_
  have between : ⌊x⌋ = (unitsIn unit distance : Int) ↔
      (⌊x⌋ ≤ 0 ∨ ⌊x⌋ * unit ≤ distance) ∧ distance < (⌊x⌋ + 1) * unit := by
    have reached := @le_unitsIn_iff unit distance positive ⌊x⌋
    have passed := @le_unitsIn_iff unit distance positive (⌊x⌋ + 1)
    omega
  rw [between]
  rcases Int.lt_or_eq_of_le started with some | none
  · have nonzero : x ≠ 0 := fun zero => by rw [zero, Int.floor_zero] at some; omega
    simp only [nonzero, false_and, or_false, not_le.mpr some, false_or]
  · have zero : x = 0 := by rw [<- whole, <- none, Int.cast_zero]
    simp only [zero, Int.floor_zero, zero_mul, zero_add, one_mul, le_refl, true_or, true_and]
    omega

end Instant

/-! ## Conditions -/

/-- The unit in which a criterion is counted. -/
def Criterion.unit : Criterion -> Nat
  | .ageDays => Time.day
  | _ => Time.hour

theorem Criterion.unit_pos (criterion : Criterion) : 0 < criterion.unit := by
  cases criterion <;> decide

/-- The distance that a criterion counts: from the start of a ticket, or from its last change. -/
def Ticket.distance (ticket : Ticket) (criterion : Criterion) (now : Instant) : Int :=
  match criterion with
  | .ageDays => ticket.createdAt.distanceTo now
  | _ => ticket.updatedAt.instant.distanceTo now

theorem Ticket.elapsed_eq (ticket : Ticket) (criterion : Criterion) (now : Instant) :
    ticket.elapsed criterion now =
      Instant.unitsIn criterion.unit (ticket.distance criterion now) := by
  cases criterion <;> rfl

theorem Ticket.distance_mono (ticket : Ticket) (criterion : Criterion) {earlier later : Instant}
    (ordered : earlier.ticks ≤ later.ticks) :
    ticket.distance criterion earlier ≤ ticket.distance criterion later := by
  cases criterion <;> simp only [distance, Instant.distanceTo] <;> omega

namespace Condition

variable {criterion : Criterion} {comparison : Comparison} {value : Value} {condition : Condition}
  {x : ℚ}

/-- A finite operand is a number from zero on, and something is counted. -/
theorem of_rational (accepted : make (written criterion comparison value) = .ok condition)
    (finite : condition.operand.rational? = some x) : Exists fun q =>
      condition.operand = .number q ∧ q.rational? = some x ∧ criterion.scale = .numeric ∧ 0 ≤ x := by
  have checked := operand_of_make accepted
  cases operand : condition.operand with
  | text _ =>
      rw [operand] at finite
      cases finite
  | number q =>
      rw [operand] at finite checked
      exact ⟨q, rfl, finite, Operand.numeric_of_check checked,
        Quantity.nonneg_of_lt_eq_false finite (Operand.notBelow_of_check checked)⟩

/-- The whole units that have passed and a finite value are compared exactly. -/
theorem evaluate_rational (accepted : make (written criterion comparison value) = .ok condition)
    (finite : condition.operand.rational? = some x) (scale : PriorityScale) (ticket : Ticket)
    (now : Instant) : condition.evaluate scale ticket now = .ok (comparison.holdsAt
      (compare (Instant.unitsIn criterion.unit (ticket.distance criterion now) : ℚ) x)) := by
  rcases of_rational accepted finite with ⟨q, operand, number, numeric, _⟩
  rcases Quantity.rational?_eq_some_iff.mp number with ⟨fraction, placed, same⟩
  rw [evaluate_of_make accepted, operand, Operand.toValue, compareWith_number numeric,
    Comparison.ofCount_eq comparison _ placed, Quantity.order_whole, same, Ticket.elapsed_eq,
    Int.cast_natCast]

section Bounds

variable (scale : PriorityScale) (ticket : Ticket) (now : Instant)

theorem evaluate_greaterThan (accepted : make (written criterion .greaterThan value) = .ok condition)
    (finite : condition.operand.rational? = some x) : condition.evaluate scale ticket now =
      .ok (decide ((⌊x⌋ + 1) * criterion.unit ≤ ticket.distance criterion now)) := by
  rcases of_rational accepted finite with ⟨_, _, _, _, nonneg⟩
  rw [evaluate_rational accepted finite]
  refine congrArg Except.ok (Bool.eq_iff_iff.mpr ?_)
  rw [decide_eq_true_iff, <- Instant.lt_unitsIn_iff criterion.unit_pos nonneg, Comparison.holdsAt,
    beq_iff_eq, compare_gt_iff_gt]

theorem evaluate_lessThan (accepted : make (written criterion .lessThan value) = .ok condition)
    (finite : condition.operand.rational? = some x) : condition.evaluate scale ticket now =
      .ok (decide (0 < x ∧ ticket.distance criterion now < ⌈x⌉ * criterion.unit)) := by
  rw [evaluate_rational accepted finite]
  refine congrArg Except.ok (Bool.eq_iff_iff.mpr ?_)
  rw [decide_eq_true_iff, <- Instant.unitsIn_lt_iff criterion.unit_pos, Comparison.holdsAt,
    beq_iff_eq, compare_lt_iff_lt]

theorem evaluate_equals (accepted : make (written criterion .equals value) = .ok condition)
    (finite : condition.operand.rational? = some x) : condition.evaluate scale ticket now =
      .ok (decide (⌊x⌋ = x ∧ (⌊x⌋ * criterion.unit ≤ ticket.distance criterion now ∧
        ticket.distance criterion now < (⌊x⌋ + 1) * criterion.unit ∨
          x = 0 ∧ ticket.distance criterion now < 0))) := by
  rcases of_rational accepted finite with ⟨_, _, _, _, nonneg⟩
  rw [evaluate_rational accepted finite]
  refine congrArg Except.ok (Bool.eq_iff_iff.mpr ?_)
  rw [decide_eq_true_iff, <- Instant.unitsIn_eq_iff criterion.unit_pos nonneg, Comparison.holdsAt,
    beq_iff_eq, compare_eq_iff_eq]

end Bounds

/-- How the conditions on a criterion with an operand turn as the distance grows, for an exact value. -/
structure TurnsAt (criterion : Criterion) (operand : Operand) (x : ℚ) : Prop where
  /-- Above the value, from the next whole unit on. -/
  greaterThan : forall scale ticket now,
    evaluate ⟨criterion, .greaterThan, operand⟩ scale ticket now =
      .ok (decide ((⌊x⌋ + 1) * criterion.unit ≤ ticket.distance criterion now))
  /-- Below a value above zero, until the first whole unit that is not below it. -/
  lessThan : forall scale ticket now,
    evaluate ⟨criterion, .lessThan, operand⟩ scale ticket now =
      .ok (decide (0 < x ∧ ticket.distance criterion now < ⌈x⌉ * criterion.unit))
  /-- Equal to a whole value, for one unit; equal to zero also before the start. -/
  equals : forall scale ticket now,
    evaluate ⟨criterion, .equals, operand⟩ scale ticket now =
      .ok (decide (⌊x⌋ = x ∧ (⌊x⌋ * criterion.unit ≤ ticket.distance criterion now ∧
        ticket.distance criterion now < (⌊x⌋ + 1) * criterion.unit ∨
          x = 0 ∧ ticket.distance criterion now < 0)))
  /-- What is above the value stays above it. -/
  staysAbove : forall scale ticket earlier later, earlier.ticks ≤ later.ticks ->
    holds ⟨criterion, .greaterThan, operand⟩ scale ticket earlier = true ->
    holds ⟨criterion, .greaterThan, operand⟩ scale ticket later = true
  /-- What is not below the value is never below it again. -/
  staysNotBelow : forall scale ticket earlier later, earlier.ticks ≤ later.ticks ->
    holds ⟨criterion, .lessThan, operand⟩ scale ticket earlier = false ->
    holds ⟨criterion, .lessThan, operand⟩ scale ticket later = false

/-- A finite value that is accepted with one comparison is accepted, as the same operand, with all that
the criterion allows.  Each of them holds exactly on one side of its bound, so that being above the
value never ends and being below it never comes back. -/
theorem turns_at_value (accepted : make (written criterion comparison value) = .ok condition)
    (finite : condition.operand.rational? = some x) :
    (forall other, criterion.scale.allows other = true ->
      make (written criterion other value) = .ok ⟨criterion, other, condition.operand⟩) ∧
    TurnsAt criterion condition.operand x := by
  rcases of_rational accepted finite with ⟨_, _, _, numeric, _⟩
  have allowed (other : Comparison) (fits : Scale.numeric.allows other = true) :
      criterion.scale.allows other = true := numeric ▸ fits
  have above (scale : PriorityScale) (ticket : Ticket) (now : Instant) :=
    evaluate_greaterThan scale ticket now (make_other accepted (allowed .greaterThan rfl)) finite
  have below (scale : PriorityScale) (ticket : Ticket) (now : Instant) :=
    evaluate_lessThan scale ticket now (make_other accepted (allowed .lessThan rfl)) finite
  refine ⟨fun other => make_other accepted, above, below, fun scale ticket now => ?_, ?_, ?_⟩
  · exact evaluate_equals scale ticket now (make_other accepted (allowed .equals rfl)) finite
  · intro scale ticket earlier later ordered reached
    rw [holds, above, answeredYes, decide_eq_true_iff] at reached ⊢
    exact reached.trans (ticket.distance_mono criterion ordered)
  · intro scale ticket earlier later ordered passed
    rw [holds, below, answeredYes, decide_eq_false_iff_not] at passed ⊢
    exact fun still => passed ⟨still.1, (ticket.distance_mono criterion ordered).trans_lt still.2⟩

/-- The age of a ticket and one and a half days: above from two days on, below until then. -/
theorem turns_at_fraction : Exists fun condition =>
    make (written .ageDays .equals (.text "1.5")) = .ok condition ∧
    condition.operand.rational? = some (3 / 2) ∧ TurnsAt .ageDays condition.operand (3 / 2) := by
  have accepted : (make (written .ageDays .equals (.text "1.5"))).toOption.any (fun condition =>
      match condition.operand with
      | .number q => q.position? == some (.at ⟨3 * twoTo 51, 52⟩)
      | .text _ => false) = true := by decide
  rcases (Option.any_eq_true _ _).mp accepted with ⟨⟨criterion, comparison, operand⟩, some, placed⟩
  have made := Result.toOption_eq_some_iff.mp some
  have finite : operand.rational? = Option.some (3 / 2) := by
    cases operand with
    | text _ => cases placed
    | number q =>
        refine Quantity.rational?_eq_some_iff.mpr ⟨_, eq_of_beq placed, ?_⟩
        norm_num [Quantity.exactly]
  exact ⟨_, made, finite, (turns_at_value made finite).2⟩

end Condition
end Triage
