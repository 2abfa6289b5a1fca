import Mathlib
import Triage.Number.Power

namespace Triage

/-!
# Products of doubles above zero

The shape of a double is read off its bits, and the arithmetic of doubles off the model that Lean
gives them.  The two readings agree, so what rounding does to a mantissa can be said about shapes:
a product of two positive doubles is no less than the least double, and so above zero, as soon as
its exact value is; it is infinite at worst, never zero and never the not-a-number.

Mantissas of full width keep their width, and exponents that are not too far from zero add up.  So
the double of a count is finite, and so is a share of it.
-/

namespace Number

open Float.Model Float.Model.UnpackedFloat

/-- What the model of a double says about its shape. -/
def Shape.ofUnpacked : UnpackedFloat -> Shape
  | .notANumber => .notANumber
  | .infinity sign => .infinite (sign == .negative)
  | .zero sign => .finite ⟨sign == .negative, 0, -1074⟩
  | .finite sign mantissa exponent _ => .finite ⟨sign == .negative, mantissa, exponent⟩

theorem unpackExponent_toNat (bits : BitVec Format.binary64.numBits) :
    (unpackExponent bits).toNat = bits.toNat / twoTo 52 % twoTo 11 := by
  simp only [unpackExponent, BitVec.toNat_cast, BitVec.extractLsb_toNat, Nat.shiftRight_eq_div_pow]

theorem unpackMantissa_toNat (bits : BitVec Format.binary64.numBits) :
    (unpackMantissa bits).toNat = bits.toNat % twoTo 52 := by
  simp only [unpackMantissa, BitVec.toNat_cast, BitVec.extractLsb_toNat, Nat.shiftRight_zero]

theorem unpackSign_toNat (bits : BitVec Format.binary64.numBits) :
    (unpackSign bits).toNat = bits.toNat / twoTo 63 % 2 := by
  simp only [unpackSign, BitVec.toNat_cast, BitVec.extractLsb_toNat, Nat.shiftRight_eq_div_pow]

theorem ofBitVec_beq (sign : BitVec 1) :
    (Sign.ofBitVec sign == .negative) = (sign.toNat == 1) := by
  revert sign; decide

theorem toNat_beq {n : Nat} (a b : BitVec n) : (a.toNat == b.toNat) = decide (a = b) := by
  rw [Bool.eq_iff_iff, beq_iff_eq, decide_eq_true_eq, BitVec.toNat_eq]

theorem toNat_withImplicitBit (fraction : BitVec 52) :
    (1#1 ++ fraction).toNat = twoTo 52 + fraction.toNat := by
  rw [BitVec.toNat_append, ← Nat.shiftLeft_add_eq_or_of_lt fraction.isLt, Nat.shiftLeft_eq]
  rfl

theorem ofBits_eq (word : BitVec Format.binary64.numBits) :
    Shape.ofBits word.toNat = Shape.ofUnpacked (UnpackedFloat.unpack .binary64 word) := by
  simp only [Shape.ofBits, ← unpackExponent_toNat, ← unpackMantissa_toNat, ← unpackSign_toNat,
    ← ofBitVec_beq, UnpackedFloat.unpack]
  have allOnes : ((unpackExponent word).toNat == 2047) = decide (unpackExponent word = -1#11) :=
    toNat_beq _ (-1#11)
  have least : ((unpackExponent word).toNat == 0) = decide (unpackExponent word = 0#11) :=
    toNat_beq _ 0#11
  have whole : ((unpackMantissa word).toNat == 0) = decide (unpackMantissa word = 0#52) :=
    toNat_beq _ 0#52
  simp only [allOnes, least, whole, decide_eq_true_eq]
  split
  · split <;> rfl
  · split
    · next zero =>
      split
      · next empty => simp only [Shape.ofUnpacked, empty]; rfl
      · simp only [Shape.ofUnpacked, zero]; rfl
    · simp only [Shape.ofUnpacked, toNat_withImplicitBit]
      rfl

/-- The shape of a double is what its model says. -/
theorem shape_eq (x : Float) : shape x = Shape.ofUnpacked x.toModel.unpack :=
  ofBits_eq x.toModel.toBits.toBitVec

/-! ## Rounding -/

theorem mantissa_shiftRight (kept : ExtendedMantissa) (places : Nat) :
    (kept >>> places).mantissa = kept.mantissa / twoTo places := by
  show (places.repeat ExtendedMantissa.shiftRightOne kept).mantissa = _
  induction places with
  | zero => exact (Nat.div_one _).symm
  | succ places inductionHypothesis =>
      show (places.repeat ExtendedMantissa.shiftRightOne kept).mantissa / 2 = _
      rw [inductionHypothesis, Nat.div_div_eq_div_mul]
      rfl

theorem mantissa_le_rounded (kept : ExtendedMantissa) : kept.mantissa ≤ kept.roundedMantissa := by
  rcases kept with ⟨mantissa, _ | _, _ | _⟩
  · exact Nat.le_refl _
  · exact Nat.le_refl _
  · exact Nat.le_add_right _ _
  · exact Nat.le_succ _

theorem rounded_le_mantissa (kept : ExtendedMantissa) :
    kept.roundedMantissa ≤ kept.mantissa + 1 := by
  rcases kept with ⟨mantissa, _ | _, _ | _⟩
  · exact Nat.le_succ _
  · exact Nat.le_succ _
  · exact Nat.add_le_add_left (Nat.lt_succ_iff.mp (Nat.mod_lt mantissa (by decide))) mantissa
  · exact Nat.le_refl _

/-- A shift keeps a magnitude that is not below the least double, and makes it one of a double. -/
theorem shiftToTargetExponent_spec {mantissa : Nat} {exponent : Int} {accuracy : Accuracy}
    (positive : 0 < mantissa) (large : -1074 ≤ (mantissa.log2 : Int) + exponent)
    {kept : ExtendedMantissa} {reached : Int}
    (shifted : shiftToTargetExponent .binary64 mantissa exponent accuracy = (kept, reached)) :
    0 < kept.mantissa ∧ kept.mantissa.log2 ≤ 52 ∧ -1074 ≤ reached := by
  have target : Format.binary64.targetExponent (totalExponent mantissa exponent) =
      max ((mantissa.log2 : Int) + 1 + exponent - 53) (-1074) := rfl
  simp only [shiftToTargetExponent, shiftToExponent, target, Prod.mk.injEq] at shifted
  generalize distance :
    (max ((mantissa.log2 : Int) + 1 + exponent - 53) (-1074) - exponent).toNat = places at shifted
  rcases shifted with ⟨rfl, rfl⟩
  have start : (ExtendedMantissa.ofMantissaAndAccuracy mantissa accuracy).mantissa = mantissa := by
    rcases accuracy with _ | _ | _ | _ <;> rfl
  rw [mantissa_shiftRight, start]
  have few : places ≤ mantissa.log2 := by omega
  have below : twoTo places ≤ mantissa :=
    (Nat.le_log2 (Nat.ne_of_gt positive)).mp few
  have quotient : 0 < mantissa / twoTo places :=
    Nat.div_pos below (Nat.two_pow_pos places)
  refine ⟨quotient, ?_, by omega⟩
  have upper : mantissa / twoTo places < twoTo 53 :=
    (Nat.div_lt_iff_lt_mul (Nat.two_pow_pos places)).mpr <|
      calc mantissa < 2 ^ (mantissa.log2 + 1) := Nat.lt_log2_self
        _ ≤ 2 ^ (53 + places) := Nat.pow_le_pow_right Nat.two_pos (by omega)
        _ = twoTo 53 * twoTo places := Nat.pow_add ..
  exact Nat.lt_succ_iff.mp ((Nat.log2_lt (Nat.ne_of_gt quotient)).mpr upper)

/-- Whether a shape lies above zero. -/
def Shape.isPositive : Shape -> Bool
  | .infinite negative => !negative
  | .finite value => !value.negative && value.mantissa != 0
  | .notANumber => false

theorem sign_packComponents (biased : BitVec 11) (fraction : BitVec 52) :
    Sign.ofBitVec (unpackSign (packComponents .binary64 .positive biased fraction)) =
      .positive := by
  simp only [unpackSign, packComponents, BitVec.extractLsb]
  rw [BitVec.extractLsb'_append_eq_of_le (by omega), BitVec.extractLsb'_append_eq_of_le (by omega)]
  rfl

theorem biased_eq (exponent : Int) :
    (exponent + Format.binary64.exponentBias + (52 : Nat)).toNat = (exponent + 1075).toNat := by
  show (exponent + (1023 : Nat) + (52 : Nat)).toNat = _
  omega

theorem isPositive_packComponents {biased : BitVec 11} {fraction : BitVec 52}
    (number : biased ≠ -1#11 ∨ fraction = 0#52) (some : biased ≠ 0#11 ∨ fraction ≠ 0#52) :
    (Shape.ofUnpacked (UnpackedFloat.unpack .binary64
      (packComponents .binary64 .positive biased fraction))).isPositive = true := by
  simp only [UnpackedFloat.unpack, unpackExponent_packComponents, unpackMantissa_packComponents,
    sign_packComponents]
  split
  · next top =>
    rw [if_pos (number.resolve_left fun other => other top)]
    rfl
  · split
    · next bottom =>
      have nonzero := some.resolve_left fun other => other bottom
      rw [dif_neg nonzero]
      have positive : fraction.toNat ≠ 0 := fun zero => nonzero (BitVec.eq_of_toNat_eq zero)
      simp only [Shape.ofUnpacked, Shape.isPositive, bne_iff_ne.mpr positive]
      rfl
    · have positive : twoTo 52 + fraction.toNat ≠ 0 :=
        Nat.ne_of_gt (Nat.add_pos_left (Nat.two_pow_pos 52) _)
      simp only [Shape.ofUnpacked, Shape.isPositive, toNat_withImplicitBit,
        bne_iff_ne.mpr positive]
      rfl

theorem isPositive_pack {mantissa : Nat} {exponent : Int} (positive : 0 < mantissa)
    (narrow : mantissa.log2 ≤ 52) (large : -1074 ≤ exponent) :
    (Shape.ofUnpacked (UnpackedFloat.unpack .binary64
      (UnpackedFloat.pack .binary64 (.finite .positive mantissa exponent positive)))).isPositive =
      true := by
  simp only [UnpackedFloat.pack, biased_eq]
  by_cases far : 2 ^ 11 ≤ (exponent + 1075).toNat + 1
  · rw [if_pos far]
    exact isPositive_packComponents (.inr rfl) (.inl (by decide))
  rw [if_neg far]
  have biased : (BitVec.ofNat 11 (exponent + 1075).toNat).toNat = (exponent + 1075).toNat := by
    rw [BitVec.toNat_ofNat]
    omega
  by_cases full : mantissa.log2 + 1 = Format.binary64.mantissaBits
  · rw [if_pos full]
    refine isPositive_packComponents (.inl fun top => ?_) (.inl fun bottom => ?_)
    · have := congrArg BitVec.toNat top
      rw [biased] at this
      simp at this
      omega
    · have := congrArg BitVec.toNat bottom
      rw [biased] at this
      simp at this
      omega
  · rw [if_neg full]
    refine isPositive_packComponents (.inl (by decide)) (.inr fun zero => ?_)
    have below : mantissa < 2 ^ 52 :=
      (Nat.log2_lt (Nat.ne_of_gt positive)).mp
        (Nat.lt_of_le_of_ne narrow fun equal => full (by rw [equal]; rfl))
    have := congrArg BitVec.toNat zero
    rw [BitVec.toNat_ofNat, Nat.mod_eq_of_lt below] at this
    exact Nat.ne_of_gt positive this

/-- Rounding keeps a positive magnitude that is not below the least double above zero. -/
theorem isPositive_roundWithAccuracy {mantissa : Nat} {exponent : Int} (accuracy : Accuracy)
    (positive : 0 < mantissa) (large : -1074 ≤ (mantissa.log2 : Int) + exponent) :
    (shape (.ofModel (.pack
      (roundWithAccuracy .binary64 .positive mantissa exponent accuracy)))).isPositive = true := by
  rw [shape_eq]
  unfold roundWithAccuracy
  rcases first : shiftToTargetExponent .binary64 mantissa exponent accuracy with ⟨kept, reached⟩
  rcases shiftToTargetExponent_spec positive large first with ⟨left, -, above⟩
  have rounded : 0 < kept.roundedMantissa := Nat.lt_of_lt_of_le left (mantissa_le_rounded kept)
  rcases second : shiftToTargetExponent .binary64 kept.roundedMantissa reached .exact with
    ⟨final, finalExponent⟩
  rcases shiftToTargetExponent_spec rounded (by omega) second with ⟨last, narrow, least⟩
  simp only [second, Nat.ne_of_gt last, dite_false]
  exact isPositive_pack last narrow least

theorem unpack_of_shape {x : Float} {value : Dyadic} (shaped : shape x = .finite value)
    (sign : value.negative = false) (some : 0 < value.mantissa) :
    x.toModel.unpack = .finite .positive value.mantissa value.exponent some := by
  rw [shape_eq] at shaped
  cases unpacked : x.toModel.unpack with
  | notANumber => rw [unpacked] at shaped; cases shaped
  | infinity sign => rw [unpacked] at shaped; cases shaped
  | zero sign => rw [unpacked] at shaped; cases shaped; cases some
  | finite side mantissa exponent _ =>
      rw [unpacked] at shaped
      cases shaped
      cases side with
      | negative => cases sign
      | positive => rfl

/-- A product of positive doubles lies above zero unless it is less than the least double. -/
theorem isPositive_mul {x y : Float} {a b : Dyadic} (left : shape x = .finite a)
    (right : shape y = .finite b) (leftSign : a.negative = false) (rightSign : b.negative = false)
    (leftSome : 0 < a.mantissa) (rightSome : 0 < b.mantissa)
    (large : -1074 ≤ (a.mantissa.log2 : Int) + b.mantissa.log2 + a.exponent + b.exponent) :
    (shape (x * y)).isPositive = true := by
  have product : x * y =
      .ofModel (.pack (UnpackedFloat.mul .binary64 x.toModel.unpack y.toModel.unpack)) := rfl
  rw [product, unpack_of_shape left leftSign leftSome, unpack_of_shape right rightSign rightSome]
  refine isPositive_roundWithAccuracy .exact (Nat.mul_pos leftSome rightSome) ?_
  have logs : a.mantissa.log2 + b.mantissa.log2 ≤ (a.mantissa * b.mantissa).log2 := by
    refine (Nat.le_log2 (Nat.ne_of_gt (Nat.mul_pos leftSome rightSome))).mpr ?_
    rw [Nat.pow_add]
    exact Nat.mul_le_mul (Nat.log2_self_le (Nat.ne_of_gt leftSome))
      (Nat.log2_self_le (Nat.ne_of_gt rightSome))
  omega

/-- No finite double is given in units below those of the least one. -/
theorem exponent_of_shape {x : Float} {value : Dyadic} (shaped : shape x = .finite value) :
    -1074 ≤ value.exponent := by
  unfold shape Shape.ofBits at shaped
  simp only at shaped
  split at shaped
  · split at shaped <;> cases shaped
  · split at shaped
    · cases shaped
      exact Int.le_refl _
    · next some =>
      cases shaped
      have := mt beq_iff_eq.mpr some
      show -1074 ≤ (_ : Int) - 1075
      omega

/-! ## Mantissas of full width -/

/-- A mantissa of full width is shifted to the width of a double, unless its value is too small. -/
theorem shiftToTargetExponent_wide {mantissa : Nat} {exponent : Int} {accuracy : Accuracy}
    (wide : 52 ≤ mantissa.log2) (large : -1022 ≤ (mantissa.log2 : Int) + exponent)
    {kept : ExtendedMantissa} {reached : Int}
    (shifted : shiftToTargetExponent .binary64 mantissa exponent accuracy = (kept, reached)) :
    kept.mantissa = mantissa / twoTo (mantissa.log2 - 52) ∧
      reached = (mantissa.log2 : Int) + exponent - 52 := by
  have target : Format.binary64.targetExponent (totalExponent mantissa exponent) =
      max ((mantissa.log2 : Int) + 1 + exponent - 53) (-1074) := rfl
  simp only [shiftToTargetExponent, shiftToExponent, target, Prod.mk.injEq] at shifted
  have distance : (max ((mantissa.log2 : Int) + 1 + exponent - 53) (-1074) - exponent).toNat =
      mantissa.log2 - 52 := by omega
  rw [distance] at shifted
  rcases shifted with ⟨rfl, rfl⟩
  have start : (ExtendedMantissa.ofMantissaAndAccuracy mantissa accuracy).mantissa = mantissa := by
    rcases accuracy with _ | _ | _ | _ <;> rfl
  rw [mantissa_shiftRight, start]
  exact ⟨rfl, by omega⟩

theorem shape_pack_normal {mantissa : Nat} {exponent : Int} (positive : 0 < mantissa)
    (wide : mantissa.log2 = 52) (large : -1074 ≤ exponent) (small : exponent ≤ 971) :
    shape (.ofModel (.pack (.finite .positive mantissa exponent positive))) =
      .finite ⟨false, mantissa, exponent⟩ := by
  rw [shape_eq]
  show Shape.ofUnpacked (UnpackedFloat.unpack .binary64 (UnpackedFloat.pack .binary64 _)) = _
  have near : ¬2 ^ 11 ≤ (exponent + 1075).toNat + 1 := by omega
  have full : mantissa.log2 + 1 = Format.binary64.mantissaBits := congrArg Nat.succ wide
  have biased : (BitVec.ofNat 11 (exponent + 1075).toNat).toNat = (exponent + 1075).toNat := by
    rw [BitVec.toNat_ofNat]
    omega
  have notTop : BitVec.ofNat 11 (exponent + 1075).toNat ≠ -1#11 := fun top => by
    have := congrArg BitVec.toNat top
    rw [biased] at this
    simp at this
    omega
  have notBottom : BitVec.ofNat 11 (exponent + 1075).toNat ≠ 0#11 := fun bottom => by
    have := congrArg BitVec.toNat bottom
    rw [biased] at this
    simp at this
    omega
  have implicit : twoTo 52 + (BitVec.ofNat 52 mantissa).toNat = mantissa := by
    have bounds := (Nat.log2_eq_iff (Nat.ne_of_gt positive)).mp wide
    rw [BitVec.toNat_ofNat]
    show 2 ^ 52 + _ = _
    omega
  have units : ((exponent + 1075).toNat : Int) - (Format.binary64.exponentBias + 52) =
      exponent := by
    show ((exponent + 1075).toNat : Int) - ((1023 : Nat) + 52) = exponent
    omega
  simp only [UnpackedFloat.pack, biased_eq, if_neg near, if_pos full, UnpackedFloat.unpack,
    unpackExponent_packComponents, unpackMantissa_packComponents, sign_packComponents]
  rw [if_neg notTop, if_neg notBottom]
  simp only [Shape.ofUnpacked, toNat_withImplicitBit, biased, implicit]
  exact congrArg (fun shift => Shape.finite ⟨false, mantissa, shift⟩) units

theorem log2_cut {mantissa : Nat} (wide : 52 ≤ mantissa.log2) :
    (mantissa / twoTo (mantissa.log2 - 52)).log2 = 52 := by
  have some : mantissa ≠ 0 := fun zero => by
    rw [zero] at wide
    exact absurd wide (by decide)
  have least : 2 ^ 52 ≤ mantissa / twoTo (mantissa.log2 - 52) := by
    refine (Nat.le_div_iff_mul_le (Nat.two_pow_pos _)).mpr ?_
    calc 2 ^ 52 * 2 ^ (mantissa.log2 - 52) = 2 ^ mantissa.log2 := by
          rw [← Nat.pow_add, Nat.add_sub_cancel' wide]
      _ ≤ mantissa := Nat.log2_self_le some
  have most : mantissa / twoTo (mantissa.log2 - 52) < 2 ^ 53 := by
    refine (Nat.div_lt_iff_lt_mul (Nat.two_pow_pos _)).mpr ?_
    calc mantissa < 2 ^ (mantissa.log2 + 1) := Nat.lt_log2_self
      _ = 2 ^ (53 + (mantissa.log2 - 52)) := congrArg (2 ^ ·) (by omega)
      _ = 2 ^ 53 * 2 ^ (mantissa.log2 - 52) := Nat.pow_add ..
  exact (Nat.log2_eq_iff (by omega)).mpr ⟨least, most⟩

/-- Rounding gives a mantissa its width, and keeps the size of its value. -/
theorem shape_roundWithAccuracy (mantissa : Nat) (exponent : Int) (accuracy : Accuracy)
    (wide : 52 ≤ mantissa.log2) (large : -1022 ≤ (mantissa.log2 : Int) + exponent)
    (small : (mantissa.log2 : Int) + exponent ≤ 1022) :
    Exists fun value : Dyadic =>
      shape (.ofModel (.pack (roundWithAccuracy .binary64 .positive mantissa exponent accuracy))) =
        .finite value ∧ value.negative = false ∧ value.mantissa.log2 = 52 ∧
      (mantissa.log2 : Int) + exponent - 52 ≤ value.exponent ∧
      value.exponent ≤ (mantissa.log2 : Int) + exponent - 51 := by
  unfold roundWithAccuracy
  rcases first : shiftToTargetExponent .binary64 mantissa exponent accuracy with ⟨kept, reached⟩
  rcases shiftToTargetExponent_wide wide large first with ⟨cut, reachedAt⟩
  have keptWidth : kept.mantissa.log2 = 52 := cut ▸ log2_cut wide
  have keptSome : kept.mantissa ≠ 0 := fun zero => by
    rw [zero] at keptWidth
    exact absurd keptWidth (by decide)
  have keptBounds := (Nat.log2_eq_iff keptSome).mp keptWidth
  have roundedLeast := mantissa_le_rounded kept
  have roundedMost := rounded_le_mantissa kept
  -- One more than a full mantissa may need one more place, which the second shift takes away.
  have width : kept.roundedMantissa.log2 = 52 ∨ kept.roundedMantissa.log2 = 53 := by
    have some : kept.roundedMantissa ≠ 0 := by omega
    have least := (Nat.le_log2 some).mpr (show 2 ^ 52 ≤ _ by omega)
    have most := (Nat.log2_lt some).mpr (show _ < 2 ^ 54 by omega)
    omega
  rcases second : shiftToTargetExponent .binary64 kept.roundedMantissa reached .exact with
    ⟨final, finalExponent⟩
  rcases shiftToTargetExponent_wide (by omega) (by omega) second with ⟨finalCut, finalAt⟩
  have finalWidth : final.mantissa.log2 = 52 := finalCut ▸ log2_cut (by omega)
  have finalSome : final.mantissa ≠ 0 := fun zero => by
    rw [zero] at finalWidth
    exact absurd finalWidth (by decide)
  simp only [second, finalSome, dite_false]
  refine ⟨_, shape_pack_normal (Nat.pos_of_ne_zero finalSome) finalWidth ?_ ?_, rfl, finalWidth,
    ?_⟩
  · omega
  · omega
  · dsimp only
    omega

/-- A double above zero that has a mantissa of full width, in units between two powers of two. -/
def IsNormal (x : Float) (least most : Int) : Prop :=
  Exists fun value : Dyadic => shape x = .finite value ∧ value.negative = false ∧
    value.mantissa.log2 = 52 ∧ least ≤ value.exponent ∧ value.exponent ≤ most

theorem pos_of_log2 {mantissa : Nat} (width : mantissa.log2 = 52) : 0 < mantissa :=
  Nat.pos_of_ne_zero fun zero => by
    rw [zero] at width
    exact absurd width (by decide)

theorem IsNormal.mul {x y : Float} {least most otherLeast otherMost : Int}
    (left : IsNormal x least most) (right : IsNormal y otherLeast otherMost)
    (large : -1126 ≤ least + otherLeast) (small : most + otherMost ≤ 917) :
    IsNormal (x * y) (least + otherLeast + 52) (most + otherMost + 54) := by
  rcases left with ⟨a, leftShaped, leftSign, leftWidth, leftLeast, leftMost⟩
  rcases right with ⟨b, rightShaped, rightSign, rightWidth, rightLeast, rightMost⟩
  have product : x * y =
      .ofModel (.pack (UnpackedFloat.mul .binary64 x.toModel.unpack y.toModel.unpack)) := rfl
  have leftSome := pos_of_log2 leftWidth
  have rightSome := pos_of_log2 rightWidth
  rw [product, unpack_of_shape leftShaped leftSign leftSome,
    unpack_of_shape rightShaped rightSign rightSome]
  have width : 104 ≤ (a.mantissa * b.mantissa).log2 ∧ (a.mantissa * b.mantissa).log2 ≤ 105 := by
    have some : a.mantissa * b.mantissa ≠ 0 := Nat.ne_of_gt (Nat.mul_pos leftSome rightSome)
    have leftBounds := (Nat.log2_eq_iff (Nat.ne_of_gt leftSome)).mp leftWidth
    have rightBounds := (Nat.log2_eq_iff (Nat.ne_of_gt rightSome)).mp rightWidth
    have least : 2 ^ 104 ≤ a.mantissa * b.mantissa :=
      (Nat.pow_add 2 52 52).symm ▸ Nat.mul_le_mul leftBounds.1 rightBounds.1
    have most : a.mantissa * b.mantissa < 2 ^ 106 :=
      (Nat.pow_add 2 53 53).symm ▸ Nat.mul_lt_mul'' leftBounds.2 rightBounds.2
    exact ⟨(Nat.le_log2 some).mpr least, Nat.lt_succ_iff.mp ((Nat.log2_lt some).mpr most)⟩
  rcases shape_roundWithAccuracy (a.mantissa * b.mantissa) (a.exponent + b.exponent) .exact
    (by omega) (by omega) (by omega) with
    ⟨value, shaped, sign, mantissa, above, below⟩
  exact ⟨value, shaped, sign, mantissa, by omega, by omega⟩

theorem log2_shiftLeft {n : Nat} (some : n ≠ 0) (places : Nat) :
    (n <<< places).log2 = n.log2 + places := by
  rw [Nat.shiftLeft_eq]
  have bounds := (Nat.log2_eq_iff some).mp rfl
  have unit : 0 < 2 ^ places := Nat.two_pow_pos places
  refine (Nat.log2_eq_iff (Nat.ne_of_gt (Nat.mul_pos (Nat.pos_of_ne_zero some) unit))).mpr ⟨?_, ?_⟩
  · rw [Nat.pow_add]
    exact Nat.mul_le_mul_right _ bounds.1
  · rw [Nat.add_right_comm, Nat.pow_add]
    exact Nat.mul_lt_mul_of_pos_right bounds.2 unit

theorem isNormal_toFloat {n : UInt64} (some : n.toNat ≠ 0) (few : n.toNat.log2 ≤ 52) :
    IsNormal n.toFloat (-52) 1 := by
  have count : n.toFloat =
      .ofModel (.pack (UnpackedFloat.normalize .binary64 n.toNat 0 .positive)) := rfl
  have above : compare (n.toNat : Int) 0 = .gt := Std.compare_eq_gt.mpr (by omega)
  have target : Format.binary64.targetExponent (totalExponent n.toNat 0) =
      max ((n.toNat.log2 : Int) + 1 + 0 - 53) (-1074) := rfl
  have distance : (0 - max ((n.toNat.log2 : Int) + 1 + 0 - 53) (-1074)).toNat =
      52 - n.toNat.log2 := by omega
  have width := log2_shiftLeft some (52 - n.toNat.log2)
  rw [count, UnpackedFloat.normalize, above]
  simp only [Int.toNat_natCast, UnpackedFloat.round, decreaseExponent, target, distance]
  rcases shape_roundWithAccuracy (n.toNat <<< (52 - n.toNat.log2))
    (0 - (52 - n.toNat.log2 : Nat)) .exact (by omega) (by omega) (by omega) with
    ⟨value, shaped, sign, mantissa, least, most⟩
  exact ⟨value, shaped, sign, mantissa, by omega, by omega⟩

theorem isNormal_one : IsNormal 1.0 (-52) (-52) :=
  ⟨⟨false, twoTo 52, -52⟩, by decide, rfl, by decide, Int.le_refl _, Int.le_refl _⟩

/-- A count is near a double of its size. -/
theorem isNormal_ofNat {n : Nat} (some : n ≠ 0) (few : n < 2 ^ 64) :
    IsNormal (Float.ofNat n) (-52) 13 := by
  have size : n.log2 ≤ 63 := Nat.lt_succ_iff.mp ((Nat.log2_lt some).mpr few)
  have exact_ : n.toUInt64.toNat = n := by
    rw [Nat.toUInt64_eq, UInt64.toNat_ofNat', Nat.mod_eq_of_lt few]
  show IsNormal (Float.ofScientific n false 0) (-52) 13
  rw [Float.ofScientific]
  by_cases short : n < 2 ^ 53
  · have narrow : n.log2 ≤ 52 := Nat.lt_succ_iff.mp ((Nat.log2_lt some).mpr short)
    have counted : IsNormal n.toUInt64.toFloat (-52) 1 :=
      isNormal_toFloat (by rwa [exact_]) (by rwa [exact_])
    rw [dif_pos ⟨short, by decide⟩, if_neg Bool.false_ne_true]
    rcases counted.mul isNormal_one (by decide) (by decide) with
      ⟨value, shaped, sign, mantissa, least, most⟩
    exact ⟨value, shaped, sign, mantissa, least, by omega⟩
  · have long : 53 ≤ n.log2 := (Nat.le_log2 some).mpr (Nat.not_lt.mp short)
    have width : (n <<< 53 * 10 ^ (0 : Int).toNat).log2 = n.log2 + 53 :=
      (congrArg Nat.log2 (Nat.mul_one _)).trans (log2_shiftLeft some 53)
    have span : (0 : Int) ≤ 2 ^ Format.binary64.exponentBits := by decide
    rw [dif_neg fun both => short both.1]
    show IsNormal (.ofModel (.pack (UnpackedFloat.ofScientific .binary64 n 0))) (-52) 13
    rw [UnpackedFloat.ofScientific, dif_neg some, if_neg (by decide), if_neg (by omega),
      if_pos (Int.le_refl 0)]
    rcases shape_roundWithAccuracy (n <<< 53 * 10 ^ (0 : Int).toNat) (-(53 : Nat) + 0) .exact
      (by omega) (by omega) (by omega) with ⟨value, shaped, sign, mantissa, least, most⟩
    exact ⟨value, shaped, sign, mantissa, by omega, by omega⟩

/-! ## Powers of two -/

theorem shape_ofBits {bits : UInt64} (number : bits.toNat / twoTo 52 % twoTo 11 ≠ 2047) :
    shape (Float.ofBits bits) = Shape.ofBits bits.toNat := by
  have kept : (Float.ofBits bits).toBits.toBitVec = bits.toBitVec := by
    show UnpackedFloat.pack .binary64 (UnpackedFloat.unpack .binary64 bits.toBitVec) = _
    rw [pack_unpack]
    refine if_neg fun strange => number ?_
    have top := (decide_eq_true_iff.mp strange).1
    exact (unpackExponent_toNat bits.toBitVec).symm.trans (by rw [top]; rfl)
  exact congrArg (fun word => Shape.ofBits word.toNat) kept

theorem shape_powerOfTwo {k : Nat} (bound : k ≤ 1023) :
    Exists fun x => powerOfTwo? k = some x ∧
      shape x = .finite ⟨false, twoTo 52, (k : Int) - 52⟩ := by
  have biased : ((k : Int) + 1023).toNat = k + 1023 := by omega
  have bits : (UInt64.ofNat ((k + 1023) * twoTo 52)).toNat = (k + 1023) * twoTo 52 := by
    rw [UInt64.toNat_ofNat']
    refine Nat.mod_eq_of_lt ?_
    show _ * 4503599627370496 < 2 ^ 64
    omega
  have exponent : (k + 1023) * twoTo 52 / twoTo 52 % twoTo 11 = k + 1023 := by
    rw [Nat.mul_div_cancel _ (Nat.two_pow_pos 52)]
    exact Nat.mod_eq_of_lt (by show _ < 2048; omega)
  refine ⟨_, by rw [powerOfTwo?, if_neg (by omega), if_pos (by omega)], ?_⟩
  have sign : (k + 1023) * twoTo 52 / twoTo 63 = 0 := by
    refine Nat.div_eq_of_lt ?_
    show _ * 4503599627370496 < 9223372036854775808
    omega
  rw [biased, shape_ofBits (by rw [bits, exponent]; omega), bits]
  simp only [Shape.ofBits, exponent, Nat.mul_mod_left, sign]
  rw [if_neg (by rw [beq_iff_eq]; omega), if_neg (by rw [beq_iff_eq]; omega)]
  have units : ((k + 1023 : Nat) : Int) - 1075 = (k : Int) - 52 := by omega
  rw [units]
  rfl

theorem powerOfTwo_eq_none {k : Int} (bound : 1024 ≤ k) : powerOfTwo? k = none :=
  if_pos bound

end Number

namespace Quantity

open Number

/-- Doubling a whole number of times: a double up to `2 ^ 1023`. -/
theorem power_two_of_le {k : Nat} (bound : k ≤ 1023) :
    Exists fun x => (Quantity.real 2.0).power (.whole k) = .ok (.real x) ∧
      shape x = .finite ⟨false, twoTo 52, (k : Int) - 52⟩ := by
  have fits : (ofInt? k).isNone = false := by
    rw [ofInt?, if_pos]
    · rfl
    · exact Nat.lt_of_le_of_lt bound (by decide +kernel)
  have two : twoExponent? 2.0 = some 1 := by decide
  rcases shape_powerOfTwo bound with ⟨x, power, shaped⟩
  refine ⟨x, ?_, shaped⟩
  simp only [Quantity.power, two, twoPower, fits, Int.one_mul, power]
  rfl

/-- Doubling a whole number of times fails from `2 ^ 1024` on. -/
theorem power_two_of_ge {n : Int} (bound : 1024 ≤ n) :
    Exists fun fault => (Quantity.real 2.0).power (.whole n) = .error fault := by
  have two : twoExponent? 2.0 = some 1 := by decide
  simp only [Quantity.power, two, twoPower, Int.one_mul, powerOfTwo_eq_none bound]
  split
  · exact ⟨_, rfl⟩
  · exact ⟨_, rfl⟩

end Quantity
end Triage
