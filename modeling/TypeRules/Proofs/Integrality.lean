import Mathlib.Data.Rat.Floor
import TypeRules.Constant.Basic
import TypeRules.Proofs.ExactValues

/-!
# Integral constants of floating form

A constant of floating form is integral exactly if the rational number that its
bits denote is an integer of a magnitude below `2 ^ 127`.  Its value as an
integer is that number rounded toward zero and brought into the range of a
word, and nothing is lost if the constant is integral.

Integrality can be asked without leaving the doubles: the number less its whole
part is zero.  Both steps could go wrong, since the whole part is found by
clearing bits and the difference is rounded.  `Binary64.passesIntegerTest`
takes these steps, and they decide the same.
-/

namespace TypeRules

/-! ## Rounding toward zero -/

/-- A rational number rounded toward zero. -/
def towardZero (value : Rat) : Int :=
  if value < 0 then ⌈value⌉ else ⌊value⌋

theorem towardZero_intCast (integer : Int) : towardZero integer = integer := by
  rw [towardZero, Int.ceil_intCast, Int.floor_intCast, ite_self]

theorem towardZero_neg (value : Rat) :
    towardZero (-value) = -towardZero value := by
  rcases lt_trichotomy value 0 with negative | rfl | positive
  · rw [towardZero, if_neg (by linarith), Int.floor_neg, towardZero,
      if_pos negative]
  · rw [neg_zero, ← Int.cast_zero, towardZero_intCast, neg_zero]
  · rw [towardZero, if_pos (by linarith), Int.ceil_neg, towardZero,
      if_neg positive.not_gt]

theorem towardZero_of_abs_lt_one {value : Rat} (small : |value| < 1) :
    towardZero value = 0 := by
  rw [abs_lt] at small
  rw [towardZero]
  split
  · next negative =>
      exact Int.ceil_eq_zero_iff.mpr ⟨small.1, negative.le⟩
  · next nonnegative =>
      exact Int.floor_eq_zero_iff.mpr ⟨not_lt.mp nonnegative, small.2⟩

theorem eq_towardZero_iff {value : Rat} :
    value = towardZero value ↔ ∃ integer : Int, value = integer := by
  constructor
  · intro whole
    exact ⟨_, whole⟩
  · rintro ⟨integer, rfl⟩
    rw [towardZero_intCast]

namespace Binary64

theorem towardZero_withSign_div (negative : Bool)
    (numerator denominator : Nat) :
    towardZero (withSign negative numerator / denominator) =
      withSign negative (numerator / denominator) := by
  have nonnegative : (0 : Rat) ≤ numerator / denominator := by positivity
  have unsigned :
      towardZero (numerator / denominator) =
        (numerator / denominator : Nat) := by
    rw [towardZero, if_neg nonnegative.not_gt, Rat.floor_natCast_div_natCast]
    rfl
  cases negative with
  | false => simpa [withSign] using unsigned
  | true => simp [withSign, neg_div, towardZero_neg, unsigned]

/-- The quotient is rounded as the number that is denoted. -/
theorem truncate_eq (number : Binary64) :
    number.truncate = towardZero number.toRat := by
  rw [toRat_eq_div, towardZero_withSign_div, truncate]

theorem isInteger_iff (number : Binary64) :
    number.isInteger = true ↔ ∃ integer : Int, number.toRat = integer := by
  have nonzero : (number.denominator : Rat) ≠ 0 :=
    Nat.cast_ne_zero.mpr number.denominator_pos.ne'
  rw [isInteger, decide_eq_true_iff, ← Nat.dvd_iff_mod_eq_zero]
  constructor
  · rintro ⟨factor, product⟩
    refine ⟨withSign number.negative factor, ?_⟩
    rw [toRat_eq_div, product, mul_comm, withSign_mul, Int.cast_mul,
      Int.cast_natCast, mul_div_cancel_right₀ _ nonzero]
  · rintro ⟨integer, value⟩
    rw [toRat_eq_div, div_eq_iff nonzero] at value
    have product :
        withSign number.negative number.numerator =
          integer * number.denominator := by
      exact_mod_cast value
    have divides : (number.denominator : Int) ∣ number.numerator := by
      rw [withSign] at product
      split at product
      · exact ⟨-integer, by linarith⟩
      · exact ⟨integer, by linarith⟩
    exact Int.natCast_dvd_natCast.mp divides

theorem numerator_lt_iff (number : Binary64) (bound : Nat) :
    number.numerator < bound * number.denominator ↔
      |number.toRat| < bound := by
  have positive : (0 : Rat) < number.denominator :=
    Nat.cast_pos.mpr number.denominator_pos
  have size :
      |number.toRat| = number.numerator / number.denominator := by
    rw [toRat_eq_div, abs_div, Nat.abs_cast, abs_withSign]
  rw [size, div_lt_iff₀ positive]
  exact_mod_cast Iff.rfl

/-! ## The whole part -/

/-- The number with its lowest bits cleared. -/
def clearLowest (number : Binary64) (places : Nat) : Binary64 :=
  ⟨UInt64.ofNat (number.bits.toNat - number.bits.toNat % 2 ^ places)⟩

/-- The number without its digits behind the binary point. -/
def wholePart (number : Binary64) : Binary64 :=
  if number.exponentField < 1023 then zero number.negative
  else number.clearLowest (1075 - number.exponentField)

theorem toRat_zero (negative : Bool) : (zero negative).toRat = 0 := by
  have size : (zero negative).magnitude = 0 := by
    rw [zero, magnitude_ofMagnitudeBits, Nat.zero_min]
  rw [← abs_eq_zero, abs_toRat, size, magnitudeUnits_subnormal leadingBit_pos,
    Nat.cast_zero, zero_div]

theorem toRat_one : toRat ⟨0x3ff0000000000000⟩ = 1 := by
  decide +kernel

theorem two_pow_dvd_leadingBit {places : Nat} (inside : places ≤ 52) :
    2 ^ places ∣ leadingBit :=
  Nat.pow_dvd_pow 2 inside

theorem lowest_eq (number : Binary64) {places : Nat} (inside : places ≤ 52) :
    number.bits.toNat % 2 ^ places = number.fraction % 2 ^ places := by
  rw [fraction, Nat.mod_mod_of_dvd _ (two_pow_dvd_leadingBit inside)]

theorem lowest_le_magnitude (number : Binary64) (places : Nat) :
    number.fraction % 2 ^ places ≤ number.magnitude := by
  rw [fraction_eq]
  exact (Nat.mod_le _ _).trans (Nat.mod_le _ _)

theorem negative_clearLowest (number : Binary64) {places : Nat}
    (inside : places ≤ 52) :
    (number.clearLowest places).negative = number.negative := by
  have below := number.bits.toNat_lt
  have within := number.lowest_le_magnitude places
  rw [magnitude, signBit, Nat.pow_eq] at within
  apply decide_eq_decide.mpr
  rw [clearLowest, number.lowest_eq inside, signBit, Nat.pow_eq,
    UInt64.toNat_ofNat']
  omega

theorem magnitude_clearLowest (number : Binary64) {places : Nat}
    (inside : places ≤ 52) :
    (number.clearLowest places).magnitude =
      number.magnitude - number.fraction % 2 ^ places := by
  have below := number.bits.toNat_lt
  have within := number.lowest_le_magnitude places
  rw [clearLowest, number.lowest_eq inside]
  simp only [magnitude, signBit, Nat.pow_eq, UInt64.toNat_ofNat'] at *
  omega

/-- Clearing the bits behind the point leaves the units that make up ones. -/
theorem magnitudeUnits_sub_mod {place fraction : Nat}
    (inside : fraction < leadingBit) (reach : 1022 ≤ place) :
    magnitudeUnits
        (leadingBit * (place + 1) + fraction -
          fraction % 2 ^ (1074 - place)) =
      magnitudeUnits (leadingBit * (place + 1) + fraction) / unitsInOne *
        unitsInOne := by
  have cleared := Nat.mod_le fraction (2 ^ (1074 - place))
  have significand :
      leadingBit + (fraction - fraction % 2 ^ (1074 - place)) =
        (leadingBit + fraction) / 2 ^ (1074 - place) *
          2 ^ (1074 - place) := by
    rw [← Nat.add_sub_assoc cleared, Nat.div_mul_self_eq_mod_sub_self,
      Nat.add_mod, Nat.mod_eq_zero_of_dvd (two_pow_dvd_leadingBit (by omega)),
      zero_add, Nat.mod_mod]
  rw [Nat.add_sub_assoc cleared, magnitudeUnits_normal (by omega),
    magnitudeUnits_normal inside, significand]
  -- Either the point stands within the significand, or all of it is whole.
  rcases le_total place 1074 with mixed | whole
  · have split : unitsInOne = 2 ^ (1074 - place) * 2 ^ place := by
      rw [unitsInOne, ← pow_add, Nat.sub_add_cancel mixed]
    rw [split, Nat.mul_div_mul_right _ _ (Nat.two_pow_pos place), mul_assoc]
  · have divides : unitsInOne ∣ (leadingBit + fraction) * 2 ^ place := by
      rw [unitsInOne]
      exact Dvd.dvd.mul_left (pow_dvd_pow 2 whole) _
    rw [Nat.div_mul_cancel divides, Nat.sub_eq_zero_of_le whole, pow_zero,
      mul_one, Nat.div_one]

theorem toRat_eq_towardZero {whole number : Binary64}
    (sign : whole.negative = number.negative)
    (size :
      magnitudeUnits whole.magnitude =
        magnitudeUnits number.magnitude / unitsInOne * unitsInOne) :
    whole.toRat = towardZero number.toRat := by
  rw [toRat_eq_units_div, toRat_eq_units_div, units, units,
    towardZero_withSign_div, sign, size, withSign_mul, Int.cast_mul,
    Int.cast_natCast, mul_div_cancel_right₀ _ cast_unitsInOne_pos.ne']

/-- The whole part is the number rounded toward zero. -/
theorem toRat_wholePart (number : Binary64) :
    number.wholePart.toRat = towardZero number.toRat := by
  rw [wholePart]
  split
  · next small =>
      have order : number.magnitude < magnitude ⟨0x3ff0000000000000⟩ := by
        rw [exponentField_eq, Nat.div_lt_iff_lt_mul leadingBit_pos] at small
        exact small
      rw [← abs_toRat_lt_iff, toRat_one, abs_one] at order
      rw [toRat_zero, towardZero_of_abs_lt_one order, Int.cast_zero]
  · next large =>
      have normal : leadingBit ≤ number.magnitude := by
        rw [exponentField_eq] at large
        exact (Nat.div_pos_iff.mp (by omega)).2
      rcases exists_fields normal with ⟨place, fraction, inside, fields⟩
      have exponent : number.exponentField = place + 1 := by
        rw [exponentField_eq, fields, Nat.mul_add_div leadingBit_pos,
          Nat.div_eq_of_lt inside, add_zero]
      have digits : number.fraction = fraction := by
        rw [fraction_eq, fields, Nat.mul_add_mod, Nat.mod_eq_of_lt inside]
      have places : 1075 - number.exponentField = 1074 - place := by
        omega
      rw [places]
      apply toRat_eq_towardZero (number.negative_clearLowest (by omega))
      rw [number.magnitude_clearLowest (by omega), digits, fields,
        magnitudeUnits_sub_mod inside (by omega)]

/-! ## The test for an integer -/

/-- The double `2 ^ 127`. -/
def wordBound : Binary64 :=
  ⟨0x47e0000000000000⟩

/--
The test for an integer that a word can hold, carried out on doubles: the
rounded difference to the whole part is zero, and the magnitude lies below that
of `2 ^ 127`.
-/
def passesIntegerTest (number : Binary64) : Bool :=
  (number.sub number.wholePart).isZero &&
    number.magnitude < wordBound.magnitude

theorem toRat_wordBound : wordBound.toRat = 2 ^ 127 := by
  decide +kernel

theorem passesIntegerTest_iff (number : Binary64) :
    number.passesIntegerTest = true ↔
      (∃ integer : Int, number.toRat = integer) ∧
        |number.toRat| < 2 ^ 127 := by
  have bound : |wordBound.toRat| = 2 ^ 127 := by
    rw [toRat_wordBound]
    exact abs_of_pos (by positivity)
  rw [passesIntegerTest, Bool.and_eq_true, decide_eq_true_iff, isZero_sub_iff,
    toRat_wholePart, eq_towardZero_iff, ← abs_toRat_lt_iff, bound]

end Binary64

/-! ## Constants of floating form -/

theorem Int128.toInt_saturate (value : Int) :
    (saturate value).toInt = max (-2 ^ 127) (min (2 ^ 127 - 1) value) := by
  have range : InRange (max least (min greatest value)) := by
    simp only [InRange, least, greatest, bound, Nat.pow_eq]
    omega
  exact toInt_ofInt range

namespace Constant

variable {number : Binary64} (text : String)

theorem isIntegral_floating_iff :
    isIntegral ⟨text, .floating number⟩ = true ↔
      (∃ integer : Int, number.toRat = integer) ∧
        |number.toRat| < 2 ^ 127 := by
  have bound : (Int128.bound : Rat) = 2 ^ 127 := by
    rw [Int128.bound, Nat.pow_eq, Nat.cast_pow, Nat.cast_ofNat]
  simp only [isIntegral]
  rw [Bool.and_eq_true, decide_eq_true_iff, Binary64.isInteger_iff,
    Binary64.numerator_lt_iff, bound]

theorem toInt_toInt128_floating :
    (toInt128 ⟨text, .floating number⟩).toInt =
      max (-2 ^ 127) (min (2 ^ 127 - 1) (towardZero number.toRat)) := by
  simp only [toInt128]
  rw [Int128.toInt_saturate, Binary64.truncate_eq]

theorem toInt128_of_isIntegral
    (integral : isIntegral ⟨text, .floating number⟩ = true) :
    ((toInt128 ⟨text, .floating number⟩).toInt : Rat) = number.toRat := by
  rcases (isIntegral_floating_iff text).mp integral with
    ⟨⟨integer, value⟩, small⟩
  rw [value] at small
  have range : -2 ^ 127 < integer ∧ integer < 2 ^ 127 := by
    exact_mod_cast abs_lt.mp small
  rw [toInt_toInt128_floating, value, towardZero_intCast,
    min_eq_right (by omega), max_eq_right (by omega)]

/--
Integrality of a constant of floating form is exact.  A finite double makes a
constant, and whatever its text, the constant is integral exactly if the bits
denote an integer of a magnitude below `2 ^ 127`.  Its value as an integer is
the denoted number itself if it is integral, and otherwise that number rounded
toward zero and brought into the range of a word.  The test that stays with
doubles decides the same.
-/
theorem floating_integrality_exact (number : Binary64)
    (finite : number.exponentBits ≠ BitVec.allOnes 11) :
    ofBinary64? number = some ⟨number.text, .floating number⟩ ∧
      ∀ text : String,
        let constant : Constant := ⟨text, .floating number⟩
        (constant.isIntegral = true ↔
          (∃ integer : Int, number.toRat = integer) ∧
            |number.toRat| < 2 ^ 127) ∧
        (constant.isIntegral = true →
          (constant.toInt128.toInt : Rat) = number.toRat) ∧
        constant.toInt128.toInt =
          max (-2 ^ 127) (min (2 ^ 127 - 1) (towardZero number.toRat)) ∧
        constant.isIntegral = number.passesIntegerTest := by
  refine ⟨if_pos (number.isFinite_iff.mpr finite), ?_⟩
  intro text constant
  refine ⟨isIntegral_floating_iff text, toInt128_of_isIntegral text,
    toInt_toInt128_floating text, ?_⟩
  rw [Bool.eq_iff_iff, number.passesIntegerTest_iff]
  exact isIntegral_floating_iff text

/--
The double `-2 ^ 127` is not integral although a word holds it, and the next
one toward zero is.  The fraction of `-2.5` is cut off.
-/
theorem floating_integrality_exact_bounds :
    let least : Binary64 := ⟨0xc7e0000000000000⟩
    let next : Binary64 := ⟨0xc7dfffffffffffff⟩
    let fractional : Binary64 := ⟨0xc004000000000000⟩
    (isIntegral ⟨"-1.7014118346046923e38", .floating least⟩ = false ∧
      (toInt128 ⟨"-1.7014118346046923e38", .floating least⟩).toInt =
        -2 ^ 127) ∧
    (isIntegral ⟨"-1.7014118346046921e38", .floating next⟩ = true ∧
      (toInt128 ⟨"-1.7014118346046921e38", .floating next⟩).toInt =
        -2 ^ 127 + 2 ^ 74) ∧
    (isIntegral ⟨"-2.5", .floating fractional⟩ = false ∧
      (toInt128 ⟨"-2.5", .floating fractional⟩).toInt = -2) := by
  intro least next fractional
  have leastValue : least.toRat = -2 ^ 127 := by decide +kernel
  have nextValue : next.toRat = -2 ^ 127 + 2 ^ 74 := by decide +kernel
  have fractionalValue : fractional.toRat = -5 / 2 := by decide +kernel
  have ofLeast := (floating_integrality_exact least (by decide)).2
    "-1.7014118346046923e38"
  have ofNext := (floating_integrality_exact next (by decide)).2
    "-1.7014118346046921e38"
  have ofFractional := (floating_integrality_exact fractional (by decide)).2
    "-2.5"
  rw [leastValue] at ofLeast
  rw [nextValue] at ofNext
  rw [fractionalValue] at ofFractional
  have nextIntegral := ofNext.1.mpr
    ⟨⟨-2 ^ 127 + 2 ^ 74, by norm_num⟩, by decide +kernel⟩
  refine ⟨⟨?_, ?_⟩, ⟨nextIntegral, ?_⟩, ?_, ?_⟩
  · rw [Bool.eq_false_iff]
    intro integral
    exact absurd (ofLeast.1.mp integral).2 (by decide +kernel)
  · exact ofLeast.2.2.1.trans (by decide +kernel)
  · exact_mod_cast ofNext.2.1 nextIntegral
  · rw [Bool.eq_false_iff]
    intro integral
    rcases (ofFractional.1.mp integral).1 with ⟨integer, value⟩
    have doubled : 2 * integer = -5 := by
      exact_mod_cast (by linarith : (2 * integer : Rat) = -5)
    omega
  · exact ofFractional.2.2.1.trans (by decide +kernel)

end Constant

end TypeRules
