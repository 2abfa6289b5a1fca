import Triage.Proofs.Delays
import Triage.Value.Conversion

namespace Triage

/-!
# Values as keys and in order

Values are told apart as keys, and two that are the same as a third are the same.  The distinct ones
among some values can be listed when each of them can be a key.  Values can be put in order when they
are all texts or all numbers, and otherwise only if there are not two of them to compare.
-/

namespace Quantity

variable {a b c : Quantity}

theorem le_of_same (same : a.same b = true) : a.le b = true := by
  rw [le, Bool.or_eq_true]
  exact .inr same

theorem same_symm (same : a.same b = true) : b.same a = true := by
  rw [Quantity.same, beq_iff_eq, order?_eq_some_iff] at same ⊢
  rcases same with ⟨p, q, left, right, equal⟩
  refine ⟨q, p, right, left, ?_⟩
  rw [<- Position.order_swap, equal]
  rfl

/-- Neither of two quantities is above the other one only if they are the same. -/
theorem same_of_le (below : a.le b = true) (above : b.le a = true) : a.same b = true := by
  rcases le_iff.mp below with ⟨p, q, left, right, order⟩
  rcases le_iff.mp above with ⟨_, _, right_, left_, reversed⟩
  cases Option.some.inj (right.symm.trans right_)
  cases Option.some.inj (left.symm.trans left_)
  rw [Quantity.same, beq_iff_eq, order?_eq_some_iff]
  refine ⟨p, q, left, right, ?_⟩
  rw [<- Position.order_swap] at reversed
  cases compared : p.order q with
  | eq => rfl
  | lt => rw [compared] at reversed; cases reversed
  | gt => rw [compared] at order; cases order

theorem same_trans (first : a.same b = true) (second : b.same c = true) : a.same c = true :=
  same_of_le (le_trans (le_of_same first) (le_of_same second))
    (le_trans (le_of_same (same_symm second)) (le_of_same (same_symm first)))

theorem placed_of_same (same : a.same b = true) : a.position? ≠ none ∧ b.position? ≠ none := by
  rw [Quantity.same, beq_iff_eq, order?_eq_some_iff] at same
  rcases same with ⟨p, q, left, right, _⟩
  exact ⟨left ▸ nofun, right ▸ nofun⟩

theorem sameKey_iff :
    a.sameKey b = true ↔ a.same b = true ∨ (a.position? = none ∧ b.position? = none) := by
  rw [sameKey, Bool.or_eq_true, Bool.and_eq_true, Option.isNone_iff_eq_none,
    Option.isNone_iff_eq_none]

theorem sameKey_trans (first : a.sameKey b = true) (second : b.sameKey c = true) :
    a.sameKey c = true := by
  rw [sameKey_iff] at first second ⊢
  rcases first with equal | ⟨left, middle⟩ <;> rcases second with equal_ | ⟨middle_, right⟩
  · exact .inl (same_trans equal equal_)
  · exact absurd middle_ (placed_of_same equal).2
  · exact absurd middle (placed_of_same equal_).1
  · exact .inr ⟨left, right⟩

end Quantity

theorem Stamp.same_trans {a b c : Stamp} (first : a.same b = true) (second : b.same c = true) :
    a.same c = true := by
  rcases a with ⟨wall, _ | offset⟩ <;> rcases b with ⟨other, _ | second⟩ <;>
    rcases c with ⟨third, _ | last⟩ <;> simp_all [Stamp.same]

namespace Value

variable {a b c : Value}

/-- A quantity is the same key as a quantity, and as nothing else. -/
theorem sameKey_of_quantity {p : Quantity} (known : a.asQuantity? = some p) (b : Value) :
    a.sameKey b = b.asQuantity?.any p.sameKey := by
  cases a with
  | number q =>
      cases known
      cases b <;> rfl
  | bool isTrue =>
      cases known
      cases b <;> rfl
  | _ => cases known

/-- Two keys that are the same as a third are the same. -/
theorem sameKey_trans {a b c : Value} (first : a.sameKey b = true) (second : b.sameKey c = true) :
    a.sameKey c = true := by
  fun_induction sameKey a b generalizing c with
  | case1 => exact second
  | case2 one other => exact eq_of_beq first ▸ second
  | case3 one other => exact eq_of_beq first ▸ second
  | case4 one other => exact eq_of_beq first ▸ second
  | case5 one other =>
      cases c with
      | stamp last => exact Stamp.same_trans first second
      | _ => cases second
  | case6 one two three four later earlier =>
      cases c with
      | pair five six =>
          rw [sameKey, Bool.and_eq_true] at second ⊢
          rw [Bool.and_eq_true] at first
          exact ⟨later first.1 second.1, earlier first.2 second.2⟩
      | _ => cases second
  | case7 one other _ _ _ _ _ _ p q right left =>
      rw [sameKey_of_quantity right, Option.any_eq_true] at second
      rw [sameKey_of_quantity left, Option.any_eq_true]
      rcases second with ⟨r, there, equal⟩
      exact ⟨r, there, Quantity.sameKey_trans first equal⟩
  | case8 => cases first

/-! ## Distinct values -/

/-- The step that lists one more value, unless one that is the same is listed already. -/
def enlist (seen : List Value) (item : Value) : Except Failure (List Value) :=
  if !item.isKey then .error (.unusableKey item)
  else .ok (if seen.any (·.sameKey item) then seen else seen ++ [item])

theorem distinct_eq (items : List Value) : distinct items = items.foldlM enlist [] := rfl

/-- The distinct ones among some values are some of these, and each of these is one of them or the
same as one of them. -/
structure Lists (items known : List Value) : Prop where
  subset : known ⊆ items
  covers : forall item, item ∈ items ->
    item ∈ known ∨ Exists fun other => other ∈ known ∧ other.sameKey item = true

/-- One more value is one of those that are listed, or the same as one of them. -/
theorem Lists.next {before seen : List Value} (listed : Lists before seen) (item : Value) :
    Lists (before ++ [item]) (if seen.any (·.sameKey item) then seen else seen ++ [item]) := by
  split
  next found =>
      rcases List.any_eq_true.mp found with ⟨other, inside, same⟩
      refine ⟨fun one member => List.mem_append_left _ (listed.subset member), ?_⟩
      intro one member
      rcases List.mem_append.mp member with old | new
      · exact listed.covers one old
      · rw [List.mem_singleton.mp new]
        exact .inr ⟨other, inside, same⟩
  next =>
      refine ⟨fun one member => ?_, fun one member => ?_⟩
      · rcases List.mem_append.mp member with old | new
        · exact List.mem_append_left _ (listed.subset old)
        · exact List.mem_append_right _ new
      · rcases List.mem_append.mp member with old | new
        · rcases listed.covers one old with known | ⟨other, inside, same⟩
          · exact .inl (List.mem_append_left _ known)
          · exact .inr ⟨other, List.mem_append_left _ inside, same⟩
        · exact .inl (List.mem_append_right _ new)

theorem foldlM_enlist {items before seen : List Value} (listed : Lists before seen) :
    (Exists fun known => items.foldlM enlist seen = .ok known ∧ Lists (before ++ items) known ∧
      forall item, item ∈ items -> item.isKey = true) ∨
    (Exists fun item => items.foldlM enlist seen = .error (.unusableKey item) ∧
      item ∈ items ∧ item.isKey = false) := by
  induction items generalizing before seen with
  | nil =>
      rw [List.append_nil]
      exact .inl ⟨seen, rfl, listed, nofun⟩
  | cons item rest inductionHypothesis =>
      rw [List.foldlM_cons]
      cases isKey : item.isKey with
      | false =>
          refine .inr ⟨item, ?_, List.mem_cons_self, isKey⟩
          rw [enlist, isKey]
          rfl
      | true =>
          have step : enlist seen item =
              .ok (if seen.any (·.sameKey item) then seen else seen ++ [item]) := by
            rw [enlist, isKey]
            rfl
          rw [step, Result.ok_bind]
          rcases inductionHypothesis (listed.next item) with
            ⟨known, folded, lists, keys⟩ | ⟨other, fails, inside, no⟩
          · rw [List.append_assoc] at lists
            refine .inl ⟨known, folded, lists, fun one member => ?_⟩
            exact (List.mem_cons.mp member).elim (fun same => same ▸ isKey) (keys one)
          · exact .inr ⟨other, fails, List.mem_cons_of_mem _ inside, no⟩

/-- The distinct ones among values can be listed exactly when each of them can be a key. -/
theorem distinct_cases (items : List Value) :
    (Exists fun known => distinct items = .ok known ∧ Lists items known ∧
      forall item, item ∈ items -> item.isKey = true) ∨
    (Exists fun item => distinct items = .error (.unusableKey item) ∧
      item ∈ items ∧ item.isKey = false) := by
  rw [distinct_eq]
  exact @foldlM_enlist items [] [] ⟨List.nil_subset _, nofun⟩

/-- A value is the same as one among some exactly when it is the same as one of the distinct ones. -/
theorem Lists.any_iff {items known : List Value} (listed : Lists items known) (value : Value) :
    known.any (·.sameKey value) = items.any (·.sameKey value) := by
  rw [Bool.eq_iff_iff, List.any_eq_true, List.any_eq_true]
  constructor
  · rintro ⟨other, inside, same⟩
    exact ⟨other, listed.subset inside, same⟩
  · rintro ⟨item, member, same⟩
    rcases listed.covers item member with inside | ⟨other, inside, alike⟩
    · exact ⟨item, inside, same⟩
    · exact ⟨other, inside, sameKey_trans alike same⟩

/-- None of the distinct ones among values is unknown among others exactly when each value is the same
as one of the others. -/
theorem Lists.unknown_eq_nil_iff {items known others listed : List Value}
    (lists : Lists items known) (names : Lists others listed) :
    (known.filter fun value => !listed.any (·.sameKey value)) = [] ↔
      forall item, item ∈ items -> Exists fun other =>
        other ∈ others ∧ other.sameKey item = true := by
  have found (value : Value) : (!listed.any (·.sameKey value)) ≠ true ↔
      Exists fun other => other ∈ others ∧ other.sameKey value = true := by
    rw [names.any_iff, <- List.any_eq_true, ne_eq, Bool.not_eq_true', Bool.not_eq_false]
  rw [List.filter_eq_nil_iff]
  constructor
  · intro each item member
    rcases lists.covers item member with inside | ⟨one, inside, alike⟩
    · exact (found item).mp (each item inside)
    · rcases (found one).mp (each one inside) with ⟨other, there, same⟩
      exact ⟨other, there, sameKey_trans same alike⟩
  · exact fun each value inside => (found value).mpr (each value (lists.subset inside))

/-! ## Sorted values -/

/-- What a value is compared as: a text, or a number. -/
def rank? : Value -> Option Bool
  | .text _ => some false
  | .bool _ => some true
  | .number _ => some true
  | _ => none

/-- Whether two values can be compared. -/
def Compares (a b : Value) : Prop := a.rank? = b.rank? ∧ a.rank? ≠ none

/-- Values that can be put in order: all texts or all numbers, or one value that nothing is compared
with. -/
def CanSort (items : List Value) : Prop :=
  items.length ≤ 1 ∨ Exists fun rank => forall item, item ∈ items -> item.rank? = some rank

theorem isBelow_cases (a b : Value) :
    (Exists fun below => a.isBelow b = .ok below ∧ a.Compares b) ∨
      (a.isBelow b = .error (noOrder "<" a b) ∧ ¬a.Compares b) := by
  cases a <;> cases b <;>
    first
    | exact .inl ⟨_, rfl, rfl, nofun⟩
    | exact .inr ⟨rfl, by simp [Compares, rank?]⟩

/-- A value finds its place among values that it can be compared with. -/
theorem insertSorted_fits {value : Value} {items : List Value}
    (fits : forall item, item ∈ items -> value.Compares item) :
    Exists fun done => insertSorted value items = .ok done ∧ done.Perm (value :: items) := by
  induction items with
  | nil => exact ⟨_, rfl, .refl _⟩
  | cons first rest inductionHypothesis =>
      rcases inductionHypothesis fun item member => fits item (List.mem_cons_of_mem _ member) with
        ⟨done, inserted, perm⟩
      rcases isBelow_cases value first with ⟨below, compared, _⟩ | ⟨_, no⟩
      · rw [insertSorted, compared, Result.ok_bind]
        cases below with
        | true => exact ⟨_, rfl, .refl _⟩
        | false =>
            rw [inserted]
            exact ⟨_, rfl, (perm.cons first).trans (.swap value first rest)⟩
      · exact absurd (fits first List.mem_cons_self) no

theorem insertSorted_fails {value first : Value} {rest : List Value} (no : ¬value.Compares first) :
    insertSorted value (first :: rest) = .error (noOrder "<" value first) := by
  rcases isBelow_cases value first with ⟨_, _, yes⟩ | ⟨compared, _⟩
  · exact absurd yes no
  · rw [insertSorted, compared]
    rfl

/-- Values of one rank find their places one after another. -/
theorem foldlM_insert {items done : List Value} {rank : Bool}
    (all : forall item, item ∈ done ++ items -> item.rank? = some rank) :
    Exists fun last =>
      items.foldlM (fun done item => insertSorted item done) done = .ok last := by
  induction items generalizing done with
  | nil => exact ⟨done, rfl⟩
  | cons item later inductionHypothesis =>
      have own : item.rank? = some rank :=
        all item (List.mem_append_right _ List.mem_cons_self)
      have fits : forall other, other ∈ done -> item.Compares other := fun other member =>
        ⟨own.trans (all other (List.mem_append_left _ member)).symm, own ▸ nofun⟩
      rcases insertSorted_fits fits with ⟨next, inserted, perm⟩
      rw [List.foldlM_cons, inserted, Result.ok_bind]
      refine inductionHypothesis fun other member => all other ?_
      rcases List.mem_append.mp member with earlier | behind
      · rcases List.mem_cons.mp (perm.mem_iff.mp earlier) with rfl | old
        · exact List.mem_append_right _ List.mem_cons_self
        · exact List.mem_append_left _ old
      · exact List.mem_append_right _ (List.mem_cons_of_mem _ behind)

/-- A value that cannot be compared with the values before it has no place. -/
theorem foldlM_insert_fails {items done : List Value} {rank : Option Bool} (some_ : done ≠ [])
    (all : forall item, item ∈ done -> item.rank? = rank)
    (odd : Exists fun item => item ∈ items ∧ ¬(item.rank? = rank ∧ rank ≠ none)) :
    Exists fun message =>
      items.foldlM (fun done item => insertSorted item done) done =
        .error (.wrongType message) := by
  induction items generalizing done with
  | nil =>
      rcases odd with ⟨_, inside, _⟩
      cases inside
  | cons item later inductionHypothesis =>
      rw [List.foldlM_cons]
      by_cases own : item.rank? = rank ∧ rank ≠ none
      · have fits : forall other, other ∈ done -> item.Compares other := fun other member =>
          ⟨own.1.trans (all other member).symm, own.1.symm ▸ own.2⟩
        rcases insertSorted_fits fits with ⟨next, inserted, perm⟩
        rw [inserted, Result.ok_bind]
        refine inductionHypothesis ?_ (fun other member => ?_) ?_
        · exact fun empty => by simp [empty] at perm
        · rcases List.mem_cons.mp (perm.mem_iff.mp member) with rfl | old
          · exact own.1
          · exact all other old
        · rcases odd with ⟨other, inside, no⟩
          rcases List.mem_cons.mp inside with rfl | behind
          · exact absurd own no
          · exact ⟨other, behind, no⟩
      · rcases List.exists_cons_of_ne_nil some_ with ⟨first, rest, rfl⟩
        have alike := all first List.mem_cons_self
        have no : ¬item.Compares first := fun yes =>
          own ⟨yes.1.trans alike, (yes.1.trans alike) ▸ yes.2⟩
        rw [insertSorted_fails no]
        exact ⟨_, rfl⟩

/-- Values are put in order exactly when they can be. -/
theorem sorted_cases (items : List Value) :
    ((Exists fun done => sorted items = .ok done) ∧ CanSort items) ∨
      ((Exists fun message => sorted items = .error (.wrongType message)) ∧ ¬CanSort items) := by
  by_cases can : CanSort items
  · refine .inl ⟨?_, can⟩
    rcases can with few | ⟨rank, all⟩
    · match items, few with
      | [], _ => exact ⟨_, rfl⟩
      | [only], _ => exact ⟨_, rfl⟩
    · exact foldlM_insert all
  · refine .inr ⟨?_, can⟩
    match items, can with
    | [], can => exact absurd (.inl (Nat.zero_le 1)) can
    | first :: rest, can =>
        refine @foldlM_insert_fails rest [first] first.rank? (List.cons_ne_nil _ _)
          (fun item member => by rw [List.mem_singleton.mp member]) ?_
        by_contra none_
        have like : forall item, item ∈ rest -> item.rank? = first.rank? ∧ first.rank? ≠ none := by
          intro item member
          by_contra no
          exact none_ ⟨item, member, no⟩
        cases rest with
        | nil => exact can (.inl (Nat.le_refl 1))
        | cons second later =>
            rcases Option.ne_none_iff_exists'.mp (like second List.mem_cons_self).2 with
              ⟨rank, known⟩
            refine can (.inr ⟨rank, fun item member => ?_⟩)
            rcases List.mem_cons.mp member with rfl | behind
            · exact known
            · exact (like item behind).1.trans known

end Value
end Triage
