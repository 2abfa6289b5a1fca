import Triage.Proofs.Doubles
import Triage.Proofs.Act
import Triage.Proofs.Checked
import Triage.Engine
import Triage.Scheduler
import Triage.Settings.Validation

namespace Triage

/-!
# How long a scheduler can go on

The delay after a failed cycle doubles with every failure until it reaches the longest delay.  The
doubling itself is done first and the bound is taken last, so the bound does not protect it:
`2 ^ 1024` is no double, and from the 1025th failure in a row on there is no delay any more.  Up to
there every delay lies above zero and not above the longer one of the interval and the longest
delay.  A series of cycles lasts exactly as long as every pause in it finds a delay.
-/

open Number

namespace Quantity

/-! ## The order of quantities -/

theorem Position.order_swap (p q : Position) : (p.order q).swap = q.order p := by
  cases p <;> cases q <;> try rfl
  exact Std.OrientedOrd.eq_swap.symm

theorem Position.isLE_order_self (p : Position) : (p.order p).isLE = true := by
  cases p with
  | bottom => rfl
  | top => rfl
  | «at» value => simp only [Position.order, Scaled.order_self, Ordering.isLE]

theorem Scaled.isLE_order_iff {a b : Scaled} :
    (a.order b).isLE = true <-> a.numerator * twoTo b.places ≤ b.numerator * twoTo a.places :=
  Std.isLE_compare

theorem Position.isLE_order_trans {p q r : Position} (first : (p.order q).isLE = true)
    (second : (q.order r).isLE = true) : (p.order r).isLE = true := by
  cases p <;> cases q <;> cases r <;>
    first | rfl | exact Bool.noConfusion first | exact Bool.noConfusion second | skip
  next a b c =>
    have left := Scaled.isLE_order_iff.mp first
    have right := Scaled.isLE_order_iff.mp second
    have unit : forall n, (0 : Int) < (twoTo n : Nat) := fun n =>
      Int.natCast_pos.mpr (Nat.two_pow_pos n)
    refine Scaled.isLE_order_iff.mpr (Int.le_of_mul_le_mul_right ?_ (unit b.places))
    calc a.numerator * twoTo c.places * twoTo b.places
        = a.numerator * twoTo b.places * twoTo c.places := Int.mul_right_comm ..
      _ ≤ b.numerator * twoTo a.places * twoTo c.places :=
          Int.mul_le_mul_of_nonneg_right left (Int.le_of_lt (unit _))
      _ = b.numerator * twoTo c.places * twoTo a.places := Int.mul_right_comm ..
      _ ≤ c.numerator * twoTo b.places * twoTo a.places :=
          Int.mul_le_mul_of_nonneg_right right (Int.le_of_lt (unit _))
      _ = c.numerator * twoTo a.places * twoTo b.places := Int.mul_right_comm ..

variable {a b c : Quantity}

theorem order?_eq_some_iff {order : Ordering} : a.order? b = some order <->
    Exists fun p => Exists fun q =>
      a.position? = some p ∧ b.position? = some q ∧ p.order q = order := by
  rw [order?]
  constructor
  · intro same
    cases left : a.position? with
    | none =>
        rw [left] at same
        cases same
    | some p =>
        cases right : b.position? with
        | none =>
            rw [left, right] at same
            cases same
        | some q =>
            rw [left, right] at same
            exact ⟨p, q, rfl, rfl, Option.some.inj same⟩
  · rintro ⟨p, q, left, right, same⟩
    rw [left, right, <- same]

theorem le_iff : a.le b = true <-> Exists fun p => Exists fun q =>
    a.position? = some p ∧ b.position? = some q ∧ (p.order q).isLE = true := by
  rw [le, Bool.or_eq_true, beq_iff_eq, beq_iff_eq, order?_eq_some_iff, order?_eq_some_iff]
  constructor
  · rintro (⟨p, q, left, right, order⟩ | ⟨p, q, left, right, order⟩)
    · exact ⟨p, q, left, right, order ▸ rfl⟩
    · exact ⟨p, q, left, right, order ▸ rfl⟩
  · rintro ⟨p, q, left, right, below⟩
    cases order : p.order q with
    | lt => exact Or.inl ⟨p, q, left, right, order⟩
    | eq => exact Or.inr ⟨p, q, left, right, order⟩
    | gt =>
        rw [order] at below
        cases below

theorem lt_iff : a.lt b = true <-> Exists fun p => Exists fun q =>
    a.position? = some p ∧ b.position? = some q ∧ p.order q = .lt := by
  rw [lt, beq_iff_eq, order?_eq_some_iff]

theorem le_self {p : Position} (placed : a.position? = some p) : a.le a = true :=
  le_iff.mpr ⟨p, p, placed, placed, p.isLE_order_self⟩

theorem le_of_lt (below : a.lt b = true) : a.le b = true := by
  rcases lt_iff.mp below with ⟨p, q, left, right, order⟩
  exact le_iff.mpr ⟨p, q, left, right, by rw [order]; rfl⟩

theorem le_trans (first : a.le b = true) (second : b.le c = true) : a.le c = true := by
  rcases le_iff.mp first with ⟨p, q, left, middle, order⟩
  rcases le_iff.mp second with ⟨other, r, same, right, later⟩
  cases Option.some.inj (middle.symm.trans same)
  exact le_iff.mpr ⟨p, r, left, right, Position.isLE_order_trans order later⟩

theorem lt_of_le_eq_false {p q : Position} (left : a.position? = some p)
    (right : b.position? = some q) (above : a.le b = false) : b.lt a = true := by
  refine lt_iff.mpr ⟨q, p, right, left, ?_⟩
  rw [← Position.order_swap]
  cases order : p.order q with
  | gt => rfl
  | lt | eq =>
      rw [le_iff.mpr ⟨p, q, left, right, by rw [order]; rfl⟩] at above
      cases above

theorem le_of_lt_eq_false {p q : Position} (left : a.position? = some p)
    (right : b.position? = some q) (above : b.lt a = false) : a.le b = true := by
  refine le_iff.mpr ⟨p, q, left, right, ?_⟩
  rw [← Position.order_swap]
  cases order : q.order p with
  | lt => rw [lt_iff.mpr ⟨q, p, right, left, order⟩] at above; cases above
  | eq | gt => rfl

theorem le_eq_false_of_lt (below : b.lt a = true) : a.le b = false := by
  rcases lt_iff.mp below with ⟨q, p, right, left, order⟩
  refine Bool.eq_false_iff.mpr fun above => ?_
  rcases le_iff.mp above with ⟨first, second, sameLeft, sameRight, reversed⟩
  cases Option.some.inj (left.symm.trans sameLeft)
  cases Option.some.inj (right.symm.trans sameRight)
  rw [← Position.order_swap, order] at reversed
  cases reversed

/-! ## Finite quantities above zero -/

/-- A quantity is finite when a finite double is the nearest to it. -/
def IsFinite (quantity : Quantity) : Prop :=
  Exists fun x => quantity.toFloat? = some x ∧ isFinite x = true

theorem shape_of_isFinite {x : Float} (finite : isFinite x = true) :
    Exists fun value => shape x = .finite value := by
  unfold isFinite at finite
  cases shaped : shape x with
  | finite value => exact ⟨value, rfl⟩
  | notANumber | infinite => rw [shaped] at finite; cases finite

theorem IsFinite.placed (finite : a.IsFinite) :
    Exists fun value => a.position? = some (.at value) := by
  rcases finite with ⟨x, nearest, isFinite⟩
  cases a with
  | whole n => exact ⟨⟨n, 0⟩, rfl⟩
  | real y =>
      cases nearest
      rcases shape_of_isFinite isFinite with ⟨value, shaped⟩
      exact ⟨value.scaled, by rw [position?, shaped]⟩

theorem lt_zero_iff {value : Scaled} (placed : a.position? = some (.at value)) :
    (whole 0).lt a = true <-> 0 < value.numerator := by
  have order : (Position.at ⟨0, 0⟩).order (.at value) = compare 0 value.numerator := by
    simp only [Position.order, Scaled.order, Int.zero_mul, twoTo, Nat.pow_eq, Nat.pow_zero,
      Int.natCast_one, Int.mul_one]
  rw [← Std.compare_eq_lt, ← order, lt_iff]
  constructor
  · rintro ⟨p, q, left, right, below⟩
    cases left
    cases Option.some.inj (placed.symm.trans right)
    exact below
  · exact fun below => ⟨_, _, rfl, placed, below⟩

theorem numerator_pos_iff {value : Number.Dyadic} :
    0 < value.scaled.numerator <-> value.negative = false ∧ 0 < value.mantissa := by
  have unit : forall n, (0 : Int) < (twoTo n : Nat) := fun n =>
    Int.natCast_pos.mpr (Nat.two_pow_pos n)
  have signed : 0 < (if value.negative then -(value.mantissa : Int) else value.mantissa) <->
      value.negative = false ∧ 0 < value.mantissa := by
    cases value.negative <;> simp
  rw [← signed]
  unfold Dyadic.scaled
  simp only
  split
  · exact mul_pos_iff_of_pos_right (unit _)
  · rfl

theorem zero_lt_real {x : Float} (positive : (shape x).isPositive = true) :
    (whole 0).lt (real x) = true := by
  cases shaped : shape x with
  | notANumber => rw [shaped] at positive; cases positive
  | infinite negative =>
      rw [shaped] at positive
      cases negative with
      | true => cases positive
      | false => exact lt_iff.mpr ⟨_, .top, rfl, by rw [position?, shaped], rfl⟩
  | finite value =>
      rw [shaped, Shape.isPositive, Bool.and_eq_true, Bool.not_eq_true', bne_iff_ne] at positive
      refine (lt_zero_iff (by rw [position?, shaped])).mpr (numerator_pos_iff.mpr ?_)
      exact ⟨positive.1, Nat.pos_of_ne_zero positive.2⟩

theorem isPositive_of_zero_lt {x : Float} (finite : isFinite x = true)
    (above : (whole 0).lt (real x) = true) : (shape x).isPositive = true := by
  rcases shape_of_isFinite finite with ⟨value, shaped⟩
  rcases numerator_pos_iff.mp ((lt_zero_iff (by rw [position?, shaped])).mp above) with
    ⟨sign, some⟩
  rw [shaped, Shape.isPositive, sign, bne_iff_ne.mpr (Nat.ne_of_gt some)]
  rfl

/-- The only whole numbers that a first delay can be. -/
theorem isPositive_few {n : Int} (some : 0 < n) (few : n < 5) :
    Exists fun x => (whole n).toFloat? = .some x ∧ isFinite x = true ∧
      (shape x).isPositive = true := by
  have all : forall k : Fin 4, (ofInt? (k.val + 1)).any (fun x =>
      isFinite x && (shape x).isPositive) = true := by decide +kernel
  have one : Exists fun k : Fin 4 => n = k.val + 1 := by
    refine ⟨⟨(n - 1).toNat, by omega⟩, ?_⟩
    show n = ((n - 1).toNat : Int) + 1
    omega
  rcases one with ⟨k, rfl⟩
  rcases (Option.any_eq_true _ _).mp (all k) with ⟨x, nearest, good⟩
  exact ⟨x, nearest, Bool.and_eq_true_iff.mp good⟩

/-- A finite positive quantity doubled some times: a double above zero. -/
theorem product_positive {base : Quantity} {x y : Float} {k : Int} (exponent : 0 ≤ k)
    (nearest : base.toFloat? = some x) (finite : isFinite x = true)
    (positive : (shape x).isPositive = true)
    (power : shape y = .finite ⟨false, twoTo 52, k - 52⟩) :
    Backoff.product base (.real y) = .ok (.real (x * y)) ∧ (whole 0).lt (real (x * y)) = true := by
  constructor
  · have multiplied : base.mul? (.real y) = some (.real (x * y)) := by
      cases base with
      | whole n => simp only [mul?, combine?, toFloat?] at nearest ⊢; rw [nearest]; rfl
      | real z => cases nearest; rfl
    rw [Backoff.product, multiplied]
  · rcases shape_of_isFinite finite with ⟨value, shaped⟩
    rw [shaped, Shape.isPositive, Bool.and_eq_true, Bool.not_eq_true', bne_iff_ne] at positive
    refine zero_lt_real (isPositive_mul shaped power positive.1 rfl
      (Nat.pos_of_ne_zero positive.2) (Nat.two_pow_pos 52) ?_)
    have least := exponent_of_shape shaped
    have full : (twoTo 52).log2 = 52 := Nat.log2_two_pow
    simp only [full]
    omega

end Quantity

/-! ## The delay after a number of failures -/

/-- A pace whose delays are finite and above zero. -/
structure Pace.IsUsable (pace : Pace) : Prop where
  finiteInterval : pace.interval.IsFinite
  finiteLongest : pace.longestDelay.IsFinite
  interval : (Quantity.whole 0).lt pace.interval = true
  longest : (Quantity.whole 0).lt pace.longestDelay = true

namespace Settings

theorem refuse_eq_ok_iff {test : Except Failure Bool} {fault : Fault} :
    refuse test fault = .ok () <-> test = .ok false := by
  cases test with
  | error failure => exact iff_of_false (fun same => by cases same) (fun same => by cases same)
  | ok refused =>
      cases refused with
      | false => exact iff_of_true rfl rfl
      | true => exact iff_of_false (fun same => by cases same) (fun same => by cases same)

/-- A number that is not refused for being at most zero lies above zero. -/
theorem zero_lt_quantityOr {value : Value} {absent : Quantity}
    (accepted : value.isAtMost (.int 0) = .ok false) (finite : (quantityOr absent value).IsFinite) :
    (Quantity.whole 0).lt (quantityOr absent value) = true := by
  have found : Exists fun quantity => value.asQuantity? = some quantity ∧
      quantity.le (.whole 0) = false := by
    cases value with
    | number q => exact ⟨q, rfl, Except.ok.inj accepted⟩
    | bool b => exact ⟨.whole (if b then 1 else 0), rfl, Except.ok.inj accepted⟩
    | _ => cases accepted
  rcases found with ⟨quantity, is, above⟩
  rw [quantityOr, is] at finite ⊢
  rcases finite.placed with ⟨place, placed⟩
  exact Quantity.lt_of_le_eq_false placed rfl above

/-- Valid settings whose interval and longest delay are finite give a usable pace. -/
theorem isUsable_of_validate {settings : Settings} (valid : settings.validate = .ok ())
    (interval : settings.engine.pace.interval.IsFinite)
    (longest : settings.engine.pace.longestDelay.IsFinite) : settings.engine.pace.IsUsable := by
  rcases Result.bind_eq_ok_iff.mp valid with ⟨_, intervalPasses, rest⟩
  rcases Result.bind_eq_ok_iff.mp rest with ⟨_, _, rest⟩
  rcases Result.bind_eq_ok_iff.mp rest with ⟨_, _, rest⟩
  rcases Result.bind_eq_ok_iff.mp rest with ⟨_, _, rest⟩
  rcases Result.bind_eq_ok_iff.mp rest with ⟨_, longestPasses, _⟩
  exact ⟨interval, longest, zero_lt_quantityOr (refuse_eq_ok_iff.mp intervalPasses) interval,
    zero_lt_quantityOr (refuse_eq_ok_iff.mp longestPasses) longest⟩

end Settings

namespace Scheduler

variable {S : Type} {pace : Pace} {scheduler : Scheduler}

/-- The delay of a scheduler with some failures, with its doubling in the open. -/
theorem nextDelay_eq (some : 0 < scheduler.failures) :
    scheduler.nextDelay pace =
      (((Quantity.real 2.0).power (.whole (scheduler.failures + -1))).mapError
        (Backoff.powerFailure pace.longestDelay)) >>= fun growth =>
      Backoff.product (firstDelay.least pace.interval) growth >>= fun grown =>
      .ok (grown.least pace.longestDelay) := by
  have counted : (scheduler.failures == 0) = false := beq_eq_false_iff_ne.mpr (by omega)
  have counts : (Quantity.whole scheduler.failures).le (.whole 0) = false :=
    Quantity.le_eq_false_of_lt ((Quantity.lt_zero_iff rfl).mpr some)
  rw [nextDelay, counted, if_neg Bool.false_ne_true, Backoff.delay, counts,
    if_neg Bool.false_ne_true]
  simp only [Backoff.steady, Quantity.add?, Quantity.combine?, backoff, Backoff.doubling,
    Bool.false_eq_true, if_false, pure_bind, bind_pure]
  rfl

theorem shape_five : shape 5.0 = .finite ⟨false, 5 * twoTo 50, -50⟩ := by decide

theorem firstDelay_placed : firstDelay.position? = some (.at ⟨5 * twoTo 50, 50⟩) := by
  rw [firstDelay, Quantity.position?, shape_five]
  rfl

/-- The first delay is a double above zero or near one, and not above the interval. -/
theorem first_delay (usable : pace.IsUsable) :
    (Exists fun x => (firstDelay.least pace.interval).toFloat? = some x ∧ isFinite x = true ∧
      (shape x).isPositive = true) ∧
    (Quantity.whole 0).lt (firstDelay.least pace.interval) = true ∧
    (firstDelay.least pace.interval).le pace.interval = true := by
  have five : isFinite 5.0 = true ∧ (shape 5.0).isPositive = true := by
    rw [isFinite, shape_five]
    exact ⟨rfl, rfl⟩
  rcases usable.finiteInterval.placed with ⟨place, placed⟩
  unfold Quantity.least
  cases short : pace.interval.lt firstDelay with
  | false =>
      exact ⟨⟨5.0, rfl, five⟩, Quantity.zero_lt_real five.2,
        Quantity.le_of_lt_eq_false firstDelay_placed placed short⟩
  | true =>
      rw [if_pos rfl]
      refine ⟨?_, usable.interval, Quantity.le_self placed⟩
      rcases usable.finiteInterval with ⟨x, nearest, finite⟩
      have positive := usable.interval
      cases interval : pace.interval with
      | real y =>
          rw [interval] at nearest positive
          cases nearest
          exact ⟨x, rfl, finite, Quantity.isPositive_of_zero_lt finite positive⟩
      | whole n =>
          rw [interval] at positive short
          have below : n < 5 := by
            rcases Quantity.lt_iff.mp short with ⟨p, q, left, right, order⟩
            cases left
            cases Option.some.inj (firstDelay_placed.symm.trans right)
            have scaled : n * 1125899906842624 < 5 * 1125899906842624 * 1 :=
              Std.compare_eq_lt.mp order
            omega
          exact Quantity.isPositive_few ((Quantity.lt_zero_iff rfl).mp positive) below

/-- Up to 1024 failures in a row there is a delay within the bounds. -/
theorem nextDelay_of_le (usable : pace.IsUsable) (few : scheduler.failures ≤ 1024) :
    Exists fun delay => scheduler.nextDelay pace = .ok delay ∧
      (Quantity.whole 0).lt delay = true ∧
      delay.le (pace.interval.greatest pace.longestDelay) = true := by
  rcases usable.finiteInterval.placed with ⟨intervalPlace, intervalPlaced⟩
  rcases usable.finiteLongest.placed with ⟨longestPlace, longestPlaced⟩
  have bounds : pace.interval.le (pace.interval.greatest pace.longestDelay) = true ∧
      pace.longestDelay.le (pace.interval.greatest pace.longestDelay) = true := by
    unfold Quantity.greatest
    cases longer : pace.interval.lt pace.longestDelay with
    | true => exact ⟨Quantity.le_of_lt longer, Quantity.le_self longestPlaced⟩
    | false =>
        exact ⟨Quantity.le_self intervalPlaced,
          Quantity.le_of_lt_eq_false longestPlaced intervalPlaced longer⟩
  rcases first_delay usable with ⟨⟨x, nearest, finite, positive⟩, above, within⟩
  rcases Int.lt_trichotomy scheduler.failures 0 with less | equal | some
  · have counts : (Quantity.whole scheduler.failures).le (.whole 0) = true := by
      refine Quantity.le_of_lt_eq_false rfl rfl (Bool.eq_false_iff.mpr fun positive => ?_)
      exact Int.lt_asymm less ((Quantity.lt_zero_iff rfl).mp positive)
    refine ⟨firstDelay.least pace.interval, ?_, above, Quantity.le_trans within bounds.1⟩
    rw [nextDelay, beq_eq_false_iff_ne.mpr (Int.ne_of_lt less), if_neg Bool.false_ne_true,
      Backoff.delay, if_pos counts]
    rfl
  · refine ⟨pace.interval, ?_, usable.interval, bounds.1⟩
    rw [nextDelay, equal]
    rfl
  · rcases Quantity.power_two_of_le (k := (scheduler.failures + -1).toNat) (by omega) with
      ⟨y, power, shaped⟩
    rw [show (((scheduler.failures + -1).toNat : Nat) : Int) = scheduler.failures + -1 by omega]
      at power shaped
    rcases Quantity.product_positive (by omega) nearest finite positive shaped with
      ⟨product, grown⟩
    refine ⟨(Quantity.real (x * y)).least pace.longestDelay, ?_, ?_⟩
    · rw [nextDelay_eq some, power]
      show Backoff.product _ _ >>= _ = _
      rw [product]
      rfl
    · unfold Quantity.least
      cases capped : pace.longestDelay.lt (.real (x * y)) with
      | true => exact ⟨usable.longest, bounds.2⟩
      | false =>
          rcases Quantity.lt_iff.mp grown with ⟨_, place, _, placed, _⟩
          exact ⟨grown, Quantity.le_trans
            (Quantity.le_of_lt_eq_false placed longestPlaced capped) bounds.2⟩

/-- From 1025 failures in a row on there is none. -/
theorem nextDelay_of_lt (pace : Pace) (many : 1024 < scheduler.failures) :
    Exists fun failure => scheduler.nextDelay pace = .error failure := by
  rcases Quantity.power_two_of_ge (n := scheduler.failures + -1) (by omega) with ⟨fault, power⟩
  refine ⟨Backoff.powerFailure pace.longestDelay fault, ?_⟩
  rw [nextDelay_eq (by omega), power]
  rfl

theorem nextDelay_iff (usable : pace.IsUsable) :
    (Exists fun delay => scheduler.nextDelay pace = .ok delay) <-> scheduler.failures ≤ 1024 := by
  constructor
  · rintro ⟨delay, found⟩
    refine Int.not_lt.mp fun many => ?_
    rcases nextDelay_of_lt pace many with ⟨failure, missing⟩
    cases found.symm.trans missing
  · intro few
    rcases nextDelay_of_le usable few with ⟨delay, found, -⟩
    exact ⟨delay, found⟩

theorem health_iff : (Exists fun record => scheduler.health pace = .ok record) <->
    Exists fun delay => scheduler.nextDelay pace = .ok delay := by
  unfold health
  cases scheduler.nextDelay pace with
  | error failure =>
      exact iff_of_false (fun found => by cases found.choose_spec)
        (fun found => by cases found.choose_spec)
  | ok delay => exact iff_of_true ⟨_, rfl⟩ ⟨_, rfl⟩

/-! ## A series of cycles -/

/-- The failures in a row at the pauses of a series: after each cycle but the last. -/
def pauses : List (Act (Scheduler × S) Report) -> Scheduler × S -> List Int
  | cycle :: next :: rest, state =>
      let after := ((turn cycle).perform state).snd
      after.fst.failures :: pauses (next :: rest) after
  | _, _ => []

/-- A cycle of a series never ends it, whatever becomes of the cycle. -/
theorem perform_turn (cycle : Act (Scheduler × S) Report) (state : Scheduler × S) :
    Exists fun report => ((turn cycle).perform state).fst = .ok report := by
  rw [turn, Act.perform_attempt_bind]
  cases (cycle.perform state).fst with
  | ok report => exact ⟨some report, rfl⟩
  | error failure => exact ⟨none, rfl⟩

/-- The last cycle of a series, at whose end somebody asks to stop, is all that is left of it. -/
theorem perform_runAll_last (pace : Pace) (cycle : Act (Scheduler × S) Report)
    (state : Scheduler × S) :
    Exists fun report => ((runAll pace [cycle]).perform state).fst = .ok ⟨[report], []⟩ := by
  rcases perform_turn (do
    let result <- cycle.attempt
    Act.change fun state => (stop state.1, state.2)
    Act.ofResult result) state with ⟨report, turned⟩
  exact ⟨report, by rw [runAll, Act.perform_bind_ok (Prod.ext turned rfl)]; rfl⟩

/-- After a pause the rest of the series goes on, if the pause finds a delay. -/
theorem perform_runAll_cons (pace : Pace) (cycle next : Act (Scheduler × S) Report)
    (rest : List (Act (Scheduler × S) Report)) (state : Scheduler × S) :
    Exists fun report => ((runAll pace (cycle :: next :: rest)).perform state).fst =
      (((turn cycle).perform state).snd.fst.nextDelay pace >>= fun delay =>
        ((runAll pace (next :: rest)).perform ((turn cycle).perform state).snd).fst.map
          fun series => ⟨report :: series.reports, delay :: series.delays⟩) := by
  rcases perform_turn cycle state with ⟨report, turned⟩
  refine ⟨report, ?_⟩
  rw [runAll.eq_def]
  simp only
  rw [Act.perform_bind_ok (Prod.ext turned rfl), Act.perform_look_bind]
  cases ((turn cycle).perform state).snd.fst.nextDelay pace with
  | error failure => rfl
  | ok delay =>
      rw [Act.perform_bind_ok (Act.perform_ofResult _ _), Result.ok_bind, Act.perform_bind]
      cases (runAll pace (next :: rest)).perform ((turn cycle).perform state).snd with
      | mk result after => cases result <;> rfl

/-- A series comes to its end when every pause of it finds a delay, and only then. -/
theorem perform_runAll (usable : pace.IsUsable) :
    forall (cycles : List (Act (Scheduler × S) Report)) (state : Scheduler × S),
      ((Exists fun series => ((runAll pace cycles).perform state).fst = .ok series) <->
        forall failures, failures ∈ pauses cycles state -> failures ≤ 1024) ∧
      forall series, ((runAll pace cycles).perform state).fst = .ok series ->
        series.reports.length = cycles.length := by
  intro cycles
  induction cycles with
  | nil =>
      intro state
      refine ⟨iff_of_true ⟨_, rfl⟩ (fun _ member => nomatch member), fun series ended => ?_⟩
      cases ended
      rfl
  | cons cycle cycles inductionHypothesis =>
      intro state
      cases cycles with
      | nil =>
          rcases perform_runAll_last pace cycle state with ⟨report, ended⟩
          rw [ended]
          refine ⟨iff_of_true ⟨_, rfl⟩ (fun _ member => nomatch member), fun series same => ?_⟩
          cases same
          rfl
      | cons next rest =>
          rcases perform_runAll_cons pace cycle next rest state with ⟨report, later⟩
          rcases inductionHypothesis ((turn cycle).perform state).snd with ⟨goesOn, count⟩
          rw [later, pauses, List.forall_mem_cons, ← goesOn, ← nextDelay_iff usable]
          cases ((turn cycle).perform state).snd.fst.nextDelay pace with
          | error failure =>
              exact ⟨iff_of_false (fun ended => by cases ended.choose_spec)
                (fun both => by cases both.1.choose_spec), fun series same => by cases same⟩
          | ok delay =>
              rw [Result.ok_bind]
              cases ended : ((runAll pace (next :: rest)).perform
                  ((turn cycle).perform state).snd).fst with
              | error failure =>
                  exact ⟨iff_of_false (fun ended => by cases ended.choose_spec)
                    (fun both => by cases both.2.choose_spec), fun series same => by cases same⟩
              | ok series =>
                  refine ⟨iff_of_true ⟨_, rfl⟩ ⟨⟨_, rfl⟩, ⟨_, rfl⟩⟩, fun whole same => ?_⟩
                  cases same
                  exact congrArg Nat.succ (count series ended)

theorem perform_serve (enabled : pace.enabled = true)
    (cycles : List (Act (Scheduler × S) Report)) (state : Scheduler × S) :
    ((serve pace cycles).perform state).fst =
      ((runAll pace cycles).perform (begin_.perform state).snd).fst := by
  have on : (!pace.enabled) = false := by rw [enabled]; rfl
  have begun : (begin_ (S := S)).perform state = (.ok (), (begin_.perform state).snd) := rfl
  rw [serve, on, if_neg Bool.false_ne_true, Act.perform_bind_ok begun, Act.perform_attempt_bind]
  rfl

/-- With valid settings whose interval and longest delay are finite, a scheduler has a delay up to
1024 failures in a row and none from there on; its delays lie above zero and not above the longer
one of the two settings, and its state can be told whenever it has one.  A series of cycles comes
to its end, with one report for each cycle, exactly if no pause of it comes after more failures
than that. -/
theorem goes_on_iff {settings : Settings} (valid : settings.validate = .ok ())
    (interval : settings.engine.pace.interval.IsFinite)
    (longest : settings.engine.pace.longestDelay.IsFinite) :
    (forall scheduler : Scheduler,
      ((Exists fun delay => scheduler.nextDelay settings.engine.pace = .ok delay) <->
        scheduler.failures ≤ 1024) ∧
      ((Exists fun record => scheduler.health settings.engine.pace = .ok record) <->
        scheduler.failures ≤ 1024) ∧
      forall delay, scheduler.nextDelay settings.engine.pace = .ok delay ->
        (Quantity.whole 0).lt delay = true ∧
        delay.le (settings.engine.pace.interval.greatest settings.engine.pace.longestDelay) =
          true) ∧
    forall (S : Type) (cycles : List (Act (Scheduler × S) Report)) (state : Scheduler × S),
      settings.engine.pace.enabled = true ->
        ((Exists fun series =>
            ((serve settings.engine.pace cycles).perform state).fst = .ok series) <->
          forall failures, failures ∈ pauses cycles (begin_.perform state).snd ->
            failures ≤ 1024) ∧
        forall series, ((serve settings.engine.pace cycles).perform state).fst = .ok series ->
          series.reports.length = cycles.length := by
  have usable := Settings.isUsable_of_validate valid interval longest
  constructor
  · intro scheduler
    refine ⟨nextDelay_iff usable, health_iff.trans (nextDelay_iff usable), fun delay found => ?_⟩
    have few := (nextDelay_iff usable).mp ⟨delay, found⟩
    rcases nextDelay_of_le usable few with ⟨same, again, bounds⟩
    cases found.symm.trans again
    exact bounds
  · intro S cycles state enabled
    rw [perform_serve enabled]
    exact perform_runAll usable cycles (begin_.perform state).snd

/-- The standard settings are accepted, and their times are doubles like others. -/
theorem standard_isOk : Settings.standard.validate.isOk = true ∧
    isFinite 300.0 = true ∧ isFinite 1800.0 = true := by decide +kernel

theorem standard_isValid : Settings.standard.validate = .ok () := by
  have accepted := standard_isOk.1
  cases result : Settings.standard.validate with
  | ok => rfl
  | error failure => rw [result] at accepted; cases accepted

theorem standard_isFinite : Settings.standard.engine.pace.interval.IsFinite ∧
    Settings.standard.engine.pace.longestDelay.IsFinite :=
  ⟨⟨300.0, rfl, standard_isOk.2.1⟩, ⟨1800.0, rfl, standard_isOk.2.2⟩⟩

theorem standard_goes_on_iff : Settings.standard.validate = .ok () ∧
    forall scheduler : Scheduler,
      (Exists fun delay => scheduler.nextDelay Settings.standard.engine.pace = .ok delay) <->
        scheduler.failures ≤ 1024 :=
  ⟨standard_isValid, fun scheduler =>
    ((goes_on_iff standard_isValid standard_isFinite.1 standard_isFinite.2).1 scheduler).1⟩

/-- A cycle that breaks off. -/
def crash : Act (Scheduler × Unit) Report :=
  Act.ofResult (.error (.plain (.other "RuntimeError") "cycle state corrupted"))

/-- With the standard settings, which are valid, the 1025th failure in a row leaves a scheduler
without a delay and without a state that can be told, and ends the series it happens in. -/
theorem standard_ends_after_many_failures : Settings.standard.validate = .ok () ∧
    (Settings.standard.engine.pace.interval.IsFinite ∧
      Settings.standard.engine.pace.longestDelay.IsFinite) ∧
    (Exists fun failure =>
      ({ Scheduler.initial with failures := 1025 }).nextDelay Settings.standard.engine.pace =
        .error failure) ∧
    (Exists fun failure =>
      ({ Scheduler.initial with failures := 1025 }).health Settings.standard.engine.pace =
        .error failure) ∧
    Exists fun failure =>
      ((serve Settings.standard.engine.pace [crash, crash]).perform
        ({ Scheduler.initial with failures := 1024 }, ())).fst = .error failure := by
  have none : Exists fun failure =>
      ({ Scheduler.initial with failures := 1025 }).nextDelay Settings.standard.engine.pace =
        .error failure := nextDelay_of_lt _ (by decide)
  refine ⟨standard_isValid, standard_isFinite, none, ?_, ?_⟩
  · rcases none with ⟨failure, missing⟩
    exact ⟨failure, by rw [health, missing]; rfl⟩
  · have enabled : Settings.standard.engine.pace.enabled = true := rfl
    rw [perform_serve enabled]
    generalize begun : (begin_.perform _).snd = state
    have counted : ((turn crash).perform state).snd.fst.failures = 1025 := by rw [← begun]; rfl
    have many : 1024 < ((turn crash).perform state).snd.fst.failures := by rw [counted]; decide
    rcases nextDelay_of_lt Settings.standard.engine.pace many with ⟨failure, missing⟩
    rcases perform_runAll_cons Settings.standard.engine.pace crash crash [] state with
      ⟨report, ended⟩
    exact ⟨failure, by rw [ended, missing]; rfl⟩

end Scheduler
end Triage
