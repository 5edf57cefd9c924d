import Mathlib.Algebra.Order.Field.Basic
import Mathlib.Algebra.Order.Field.Power
import Mathlib.Data.Rat.Cast.Order
import Mathlib.Tactic.FieldSimp
import Mathlib.Tactic.Linarith
import TypeRules.Binary64.Arithmetic

/-!
# The rational numbers that doubles denote

`Binary64.toRat` reads the bits of a finite double as a rational number: a
sign, a power of two and a binary fraction.  The quotient that the arithmetic
works with, `numerator` over `denominator`, is the same number.

Every finite double is a whole number of units, where a unit is the least
positive double.  This gives two facts about doubles of any size.  Magnitudes
are ordered as their bits are, since each further bit pattern adds units.  And
a sum rounds to zero only if it is zero, since any other sum is at least one
unit, which rounding does not lose.
-/

namespace TypeRules.Binary64

/-! ## Reading the bits -/

/-- The sign: the highest of the 64 bits. -/
def signBits (number : Binary64) : BitVec 1 :=
  number.bits.toBitVec.extractLsb' 63 1

/-- The exponent, with a bias of 1023. -/
def exponentBits (number : Binary64) : BitVec 11 :=
  number.bits.toBitVec.extractLsb' 52 11

/-- The digits behind the binary point. -/
def fractionBits (number : Binary64) : BitVec 52 :=
  number.bits.toBitVec.extractLsb' 0 52

/--
The rational number that the bits of a finite double denote.  The digit before
the binary point is one, except where no exponent bit is set: there it is zero,
and the power of two is that of the least exponent.
-/
def toRat (number : Binary64) : Rat :=
  (-1) ^ number.signBits.toNat *
    if number.exponentBits = 0 then
      (2 : Rat) ^ (-1022 : Int) * (number.fractionBits.toNat / 2 ^ 52)
    else
      (2 : Rat) ^ (number.exponentBits.toNat - 1023 : Int) *
        (1 + number.fractionBits.toNat / 2 ^ 52)

theorem negative_eq_msb (number : Binary64) :
    number.negative = number.bits.toBitVec.msb := by
  rw [BitVec.msb_eq_decide]
  rfl

theorem toNat_signBits (number : Binary64) :
    number.signBits.toNat = number.negative.toNat := by
  have below := number.bits.toNat_lt
  have highest : number.signBits.toNat = number.bits.toNat / 2 ^ 63 := by
    simp only [signBits, BitVec.extractLsb'_toNat, UInt64.toNat_toBitVec,
      Nat.shiftRight_eq_div_pow]
    omega
  rw [highest, negative, signBit, Nat.pow_eq]
  by_cases set : 2 ^ 63 ≤ number.bits.toNat
  · rw [decide_eq_true set, Bool.toNat_true]
    omega
  · rw [decide_eq_false set, Bool.toNat_false]
    omega

theorem toNat_exponentBits (number : Binary64) :
    number.exponentBits.toNat = number.exponentField := by
  simp [exponentBits, exponentField, leadingBit, Nat.shiftRight_eq_div_pow]

theorem toNat_fractionBits (number : Binary64) :
    number.fractionBits.toNat = number.fraction := by
  simp [fractionBits, fraction, leadingBit]

theorem isFinite_iff (number : Binary64) :
    number.isFinite = true ↔ number.exponentBits ≠ BitVec.allOnes 11 := by
  rw [isFinite, decide_eq_true_iff, ← toNat_exponentBits, ne_eq, ne_eq,
    ← BitVec.toNat_inj]
  rfl

theorem toRat_eq_zpow (number : Binary64) :
    number.toRat =
      withSign number.negative number.significand * 2 ^ number.exponent := by
  have subnormal : number.exponentBits = 0 ↔ number.exponentField = 0 := by
    rw [← toNat_exponentBits, ← BitVec.toNat_inj]
    rfl
  have signed (magnitude : Nat) :
      (-1 : Rat) ^ number.signBits.toNat * magnitude =
        withSign number.negative magnitude := by
    rw [toNat_signBits]
    cases number.negative <;> simp [withSign]
  -- The significand is an integer, so its point stands 52 places further right.
  have point (place : Int) (shifted : place = number.exponent + 52) :
      (2 : Rat) ^ place = 2 ^ number.exponent * 2 ^ 52 := by
    rw [shifted, zpow_add₀ two_ne_zero]
    rfl
  rw [← signed, toRat, mul_assoc]
  simp only [subnormal, toNat_exponentBits, toNat_fractionBits, significand]
  congr 1
  split
  · next least =>
      rw [point (-1022) (by rw [exponent]; omega)]
      field_simp
  · next normal =>
      rw [point _ (by rw [exponent]; omega)]
      simp only [leadingBit, Nat.pow_eq]
      push_cast
      field_simp
      norm_num

theorem denominator_pos (number : Binary64) : 0 < number.denominator :=
  Nat.pow_pos two_pos

theorem withSign_mul (negative : Bool) (magnitude factor : Nat) :
    withSign negative (magnitude * factor) =
      withSign negative magnitude * factor := by
  cases negative <;> simp [withSign]

theorem withSign_not (negative : Bool) (magnitude : Nat) :
    withSign (!negative) magnitude = -withSign negative magnitude := by
  cases negative <;> simp [withSign]

theorem abs_withSign (negative : Bool) (magnitude : Nat) :
    |(withSign negative magnitude : Rat)| = magnitude := by
  cases negative <;> simp [withSign]

/-- The quotient that arithmetic works with is the number that is denoted. -/
theorem toRat_eq_div (number : Binary64) :
    number.toRat =
      withSign number.negative number.numerator / number.denominator := by
  have scale :
      (2 : Rat) ^ number.exponent =
        2 ^ number.exponent.toNat / 2 ^ (-number.exponent).toNat := by
    rw [← zpow_natCast, ← zpow_natCast, ← zpow_sub₀ two_ne_zero,
      Int.toNat_sub_toNat_neg]
  rw [toRat_eq_zpow, scale, numerator, denominator, withSign_mul, Nat.pow_eq,
    Nat.pow_eq]
  push_cast
  rw [mul_div_assoc]

/-! ## Doubles as numbers of units -/

/-- The bits of a number without its sign. -/
def magnitude (number : Binary64) : Nat :=
  number.bits.toNat % signBit

/-- How often the least positive double goes into one. -/
def unitsInOne : Nat :=
  2 ^ 1074

/-- How often the least positive double goes into the given magnitude. -/
def magnitudeUnits (magnitude : Nat) : Nat :=
  if magnitude < leadingBit then magnitude
  else
    (leadingBit + magnitude % leadingBit) * 2 ^ (magnitude / leadingBit - 1)

/-- How often the least positive double goes into a number. -/
def units (number : Binary64) : Int :=
  withSign number.negative (magnitudeUnits number.magnitude)

theorem leadingBit_pos : 0 < leadingBit :=
  Nat.pow_pos two_pos

theorem unitsInOne_pos : 0 < unitsInOne :=
  pow_pos two_pos 1074

theorem cast_unitsInOne_pos : (0 : Rat) < unitsInOne :=
  Nat.cast_pos.mpr unitsInOne_pos

theorem exponentField_eq (number : Binary64) :
    number.exponentField = number.magnitude / leadingBit := by
  simp only [exponentField, magnitude, leadingBit, signBit, Nat.pow_eq]
  omega

theorem fraction_eq (number : Binary64) :
    number.fraction = number.magnitude % leadingBit := by
  simp only [fraction, magnitude, leadingBit, signBit, Nat.pow_eq]
  omega

theorem magnitudeUnits_eq (number : Binary64) :
    magnitudeUnits number.magnitude =
      number.significand * 2 ^ (number.exponent + 1074).toNat := by
  rw [magnitudeUnits, significand, exponent, exponentField_eq, fraction_eq]
  simp only [Nat.div_eq_zero_iff_lt leadingBit_pos]
  split
  · next least =>
      rw [Nat.div_eq_of_lt least, Nat.mod_eq_of_lt least]
      simp
  · next normal =>
      have positive : 0 < number.magnitude / leadingBit :=
        Nat.div_pos (not_lt.mp normal) leadingBit_pos
      congr 2
      omega

theorem toRat_eq_units_div (number : Binary64) :
    number.toRat = number.units / unitsInOne := by
  have least : 0 ≤ number.exponent + 1074 := by
    rw [exponent]
    omega
  have scale :
      (2 : Rat) ^ number.exponent * unitsInOne =
        2 ^ (number.exponent + 1074).toNat := by
    rw [unitsInOne, Nat.cast_pow, ← zpow_natCast, ← zpow_natCast,
      Int.toNat_of_nonneg least, zpow_add₀ two_ne_zero]
    rfl
  rw [eq_div_iff cast_unitsInOne_pos.ne', toRat_eq_zpow, units,
    magnitudeUnits_eq, withSign_mul, mul_assoc, scale]
  push_cast
  rfl

/-! ## The order of magnitudes -/

theorem magnitudeUnits_subnormal {magnitude : Nat}
    (small : magnitude < leadingBit) :
    magnitudeUnits magnitude = magnitude :=
  if_pos small

theorem magnitudeUnits_normal {fraction : Nat} (inside : fraction < leadingBit)
    (place : Nat) :
    magnitudeUnits (leadingBit * (place + 1) + fraction) =
      (leadingBit + fraction) * 2 ^ place := by
  have large : ¬ leadingBit * (place + 1) + fraction < leadingBit := by
    rw [mul_add_one]
    omega
  rw [magnitudeUnits, if_neg large, Nat.mul_add_mod, Nat.mod_eq_of_lt inside,
    Nat.mul_add_div leadingBit_pos, Nat.div_eq_of_lt inside]
  rfl

theorem exists_fields {magnitude : Nat} (large : leadingBit ≤ magnitude) :
    ∃ place fraction, fraction < leadingBit ∧
      magnitude = leadingBit * (place + 1) + fraction := by
  have positive : 0 < magnitude / leadingBit :=
    Nat.div_pos large leadingBit_pos
  refine ⟨magnitude / leadingBit - 1, magnitude % leadingBit,
    Nat.mod_lt _ leadingBit_pos, ?_⟩
  rw [Nat.sub_add_cancel positive, Nat.div_add_mod]

/-- The next bit pattern is the next greater double. -/
theorem magnitudeUnits_lt_succ (magnitude : Nat) :
    magnitudeUnits magnitude < magnitudeUnits (magnitude + 1) := by
  rcases lt_trichotomy (magnitude + 1) leadingBit with small | last | large
  · rw [magnitudeUnits_subnormal (Nat.lt_of_succ_lt small),
      magnitudeUnits_subnormal small]
    exact Nat.lt_succ_self magnitude
  · have least := magnitudeUnits_normal leadingBit_pos 0
    rw [zero_add, mul_one, add_zero, pow_zero, mul_one] at least
    rw [magnitudeUnits_subnormal (by omega), last, least]
    omega
  · rcases exists_fields (Nat.le_of_lt_succ large) with
      ⟨place, fraction, inside, rfl⟩
    rw [magnitudeUnits_normal inside]
    by_cases carries : fraction + 1 = leadingBit
    · have next :
          leadingBit * (place + 1) + fraction + 1 =
            leadingBit * (place + 1 + 1) + 0 := by
        rw [mul_add_one leadingBit (place + 1), ← carries]
        rfl
      rw [next, magnitudeUnits_normal leadingBit_pos]
      calc
        (leadingBit + fraction) * 2 ^ place <
            (leadingBit + 0) * 2 * 2 ^ place :=
          Nat.mul_lt_mul_of_pos_right (by omega) (Nat.two_pow_pos place)
        _ = (leadingBit + 0) * 2 ^ (place + 1) := by
          rw [mul_assoc, pow_succ']
    · rw [add_assoc, magnitudeUnits_normal (by omega)]
      exact Nat.mul_lt_mul_of_pos_right (by omega) (Nat.two_pow_pos place)

theorem magnitudeUnits_strictMono : StrictMono magnitudeUnits :=
  strictMono_nat_of_lt_succ magnitudeUnits_lt_succ

theorem abs_toRat (number : Binary64) :
    |number.toRat| = magnitudeUnits number.magnitude / unitsInOne := by
  rw [toRat_eq_units_div, abs_div, Nat.abs_cast, units, abs_withSign]

/-- Magnitudes compare as their bits do. -/
theorem abs_toRat_lt_iff (left right : Binary64) :
    |left.toRat| < |right.toRat| ↔ left.magnitude < right.magnitude := by
  rw [abs_toRat, abs_toRat, div_lt_div_iff_of_pos_right cast_unitsInOne_pos,
    Nat.cast_lt, magnitudeUnits_strictMono.lt_iff_lt]

/-! ## Rounding keeps a unit -/

theorem isZero_iff (number : Binary64) :
    number.isZero = true ↔ number.magnitude = 0 := by
  rw [isZero, decide_eq_true_iff, significand, exponentField_eq, fraction_eq]
  split
  · next least =>
      have small := (Nat.div_eq_zero_iff_lt leadingBit_pos).mp least
      rw [Nat.mod_eq_of_lt small]
  · next normal =>
      have positive := leadingBit_pos
      refine iff_of_false (by omega) ?_
      intro zero
      rw [zero, Nat.zero_div] at normal
      exact normal rfl

theorem magnitude_ofMagnitudeBits (negative : Bool) (bits : Nat) :
    (ofMagnitudeBits negative bits).magnitude = min bits infinityBits := by
  simp only [ofMagnitudeBits, magnitude, infinityBits, topExponent, leadingBit,
    signBit, Nat.pow_eq, UInt64.toNat_ofNat']
  split <;> omega

theorem div_le_roundHalfEven (numerator denominator : Nat) :
    numerator / denominator ≤ roundHalfEven numerator denominator := by
  rw [roundHalfEven]
  split_ifs <;> omega

theorem magnitudeBits_pos {significand : Nat} {exponent : Int}
    (positive : 0 < significand) (least : -1074 ≤ exponent) :
    0 < magnitudeBits significand exponent := by
  rw [magnitudeBits]
  split
  · exact positive
  · have field : 0 < (exponent + 1075).toNat := by omega
    exact Nat.add_pos_left (Nat.mul_pos field leadingBit_pos) _

theorem placeExponent_bounds (numerator denominator : Nat) :
    -1074 ≤ placeExponent numerator denominator ∧
      (placeExponent numerator denominator = -1074 ∨
        placeExponent numerator denominator <
          numerator.log2 - denominator.log2) := by
  simp only [placeExponent]
  split_ifs <;> omega

theorem scaleDown_neg (numerator denominator places : Nat) :
    scaleDown numerator denominator (-places) =
      (numerator * 2 ^ places, denominator) := by
  simp [scaleDown]

theorem scaleDown_le {numerator denominator : Nat} {exponent : Int}
    (nonzero : numerator ≠ 0)
    (small : exponent < numerator.log2 - denominator.log2) :
    (scaleDown numerator denominator exponent).2 ≤
      (scaleDown numerator denominator exponent).1 := by
  have grows :
      denominator.log2 + 1 + exponent.toNat ≤
        numerator.log2 + (-exponent).toNat := by
    omega
  simp only [scaleDown, Nat.pow_eq]
  calc
    denominator * 2 ^ exponent.toNat ≤
        2 ^ (denominator.log2 + 1) * 2 ^ exponent.toNat :=
      Nat.mul_le_mul_right _ Nat.lt_log2_self.le
    _ = 2 ^ (denominator.log2 + 1 + exponent.toNat) := (pow_add ..).symm
    _ ≤ 2 ^ (numerator.log2 + (-exponent).toNat) :=
      Nat.pow_le_pow_right two_pos grows
    _ = 2 ^ numerator.log2 * 2 ^ (-exponent).toNat := pow_add ..
    _ ≤ numerator * 2 ^ (-exponent).toNat :=
      Nat.mul_le_mul_right _ (Nat.log2_self_le nonzero)

/-- A quotient of at least one unit does not round to zero. -/
theorem ofQuotient_ne_zero {numerator denominator : Nat} (negative : Bool)
    (positive : 0 < denominator)
    (unit : denominator ≤ numerator * unitsInOne) :
    ¬ (ofQuotient negative numerator denominator).isZero = true := by
  have nonzero : numerator ≠ 0 := by
    rintro rfl
    omega
  rcases placeExponent_bounds numerator denominator with ⟨least, place⟩
  -- In units of the last place that is kept, the quotient is at least one.
  have whole :
      (scaleDown numerator denominator
          (placeExponent numerator denominator)).2 ≤
        (scaleDown numerator denominator
          (placeExponent numerator denominator)).1 := by
    rcases place with last | small
    · have scaled := scaleDown_neg numerator denominator 1074
      rw [last]
      exact scaled.symm ▸ unit
    · exact scaleDown_le nonzero small
  have scaledPositive :
      0 < (scaleDown numerator denominator
        (placeExponent numerator denominator)).2 :=
    Nat.mul_pos positive (Nat.pow_pos two_pos)
  have rounded :=
    (Nat.div_pos whole scaledPositive).trans_le (div_le_roundHalfEven _ _)
  have bits := magnitudeBits_pos rounded least
  have infinity : 0 < infinityBits := by decide
  rw [isZero_iff, ofQuotient, if_neg nonzero, magnitude_ofMagnitudeBits]
  omega

/-! ## Sums and differences that are zero -/

theorem cast_sumNumerator (left right : Binary64) :
    (sumNumerator left right : Rat) =
      (left.toRat + right.toRat) *
        (left.denominator * right.denominator : Nat) := by
  have leftPositive := left.denominator_pos
  have rightPositive := right.denominator_pos
  rw [toRat_eq_div, toRat_eq_div, sumNumerator, withSign_mul, withSign_mul]
  push_cast
  field_simp

theorem sumNumerator_mul_unitsInOne (left right : Binary64) :
    sumNumerator left right * unitsInOne =
      (left.units + right.units) *
        (left.denominator * right.denominator : Nat) := by
  have positive := cast_unitsInOne_pos
  rw [← Int.cast_inj (α := Rat), Int.cast_mul, cast_sumNumerator,
    toRat_eq_units_div, toRat_eq_units_div]
  push_cast
  field_simp

theorem unit_le_sumNumerator {left right : Binary64}
    (nonzero : sumNumerator left right ≠ 0) :
    left.denominator * right.denominator ≤
      (sumNumerator left right).natAbs * unitsInOne := by
  have scaled := sumNumerator_mul_unitsInOne left right
  have total : left.units + right.units ≠ 0 := by
    intro zero
    rw [zero, zero_mul] at scaled
    exact mul_ne_zero nonzero
      (Int.natCast_ne_zero.mpr unitsInOne_pos.ne') scaled
  have sizes := congrArg Int.natAbs scaled
  rw [Int.natAbs_mul, Int.natAbs_mul, Int.natAbs_natCast,
    Int.natAbs_natCast] at sizes
  rw [sizes]
  exact Nat.le_mul_of_pos_left _ (Int.natAbs_pos.mpr total)

/-- A sum rounds to zero only where it is zero. -/
theorem isZero_add_iff (left right : Binary64) :
    (left.add right).isZero = true ↔ left.toRat + right.toRat = 0 := by
  have positive : 0 < left.denominator * right.denominator :=
    Nat.mul_pos left.denominator_pos right.denominator_pos
  have sum :
      sumNumerator left right = 0 ↔ left.toRat + right.toRat = 0 := by
    rw [← Int.cast_eq_zero (α := Rat), cast_sumNumerator, mul_eq_zero,
      Nat.cast_eq_zero, or_iff_left positive.ne']
  rw [add, ← sum]
  split
  · next zero =>
      rw [isZero_iff, Binary64.zero, magnitude_ofMagnitudeBits]
      exact iff_of_true (Nat.zero_min _) zero
  · next nonzero =>
      exact iff_of_false
        (ofQuotient_ne_zero _ positive (unit_le_sumNumerator nonzero)) nonzero

theorem magnitude_neg (number : Binary64) :
    number.neg.magnitude = number.magnitude := by
  simp only [neg, magnitude, signBit, Nat.pow_eq, UInt64.toNat_xor]
  rw [Nat.xor_mod_two_pow]
  simp

theorem negative_neg (number : Binary64) :
    number.neg.negative = !number.negative := by
  rw [negative_eq_msb, negative_eq_msb, neg, UInt64.toBitVec_xor,
    BitVec.msb_xor]
  exact Bool.xor_true _

theorem toRat_neg (number : Binary64) : number.neg.toRat = -number.toRat := by
  rw [toRat_eq_units_div, toRat_eq_units_div, units, units, magnitude_neg,
    negative_neg, withSign_not, Int.cast_neg, neg_div]

/-- A difference rounds to zero only between equal numbers. -/
theorem isZero_sub_iff (left right : Binary64) :
    (left.sub right).isZero = true ↔ left.toRat = right.toRat := by
  rw [sub, isZero_add_iff, toRat_neg, ← sub_eq_add_neg, sub_eq_zero]

end TypeRules.Binary64
