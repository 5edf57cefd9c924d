import Mathlib.Data.Int.Bitwise
import Mathlib.Tactic.Linarith
import TypeRules.Int128

/-!
# Words of 128 bits as integers

Every operation on 128-bit words is said here through `Int128.toInt`, the one
view of a word.  The bitwise operations are those of the integers in two's
complement with endless sign extension: bit `place` of the integer that a word
denotes is the bit of the word below its width, and the sign bit from there on.
A shift to the right is a division rounded down, also by powers of two far
beyond the width; a shift to the left is a product, and is refused exactly
where the product cannot be held.
-/

namespace TypeRules

/-! ## Integers by their bits -/

theorem exists_testBit_ne (magnitude complement : Nat) :
    ∃ place,
      (magnitude : Int).testBit place ≠
        (Int.negSucc complement).testBit place := by
  -- Beyond every bit of both magnitudes only the two signs are left.
  refine ⟨magnitude + complement, ?_⟩
  have magnitudeClear :
      magnitude.testBit (magnitude + complement) = false := by
    apply Nat.testBit_lt_two_pow
    calc
      magnitude < 2 ^ magnitude := Nat.lt_two_pow_self
      _ ≤ 2 ^ (magnitude + complement) :=
        Nat.pow_le_pow_right (by omega) (by omega)
  have complementClear :
      complement.testBit (magnitude + complement) = false := by
    apply Nat.testBit_lt_two_pow
    calc
      complement < 2 ^ complement := Nat.lt_two_pow_self
      _ ≤ 2 ^ (magnitude + complement) :=
        Nat.pow_le_pow_right (by omega) (by omega)
  simp [Int.testBit, magnitudeClear, complementClear]

/-- Integers that agree in every bit are equal. -/
theorem int_eq_of_testBit_eq {left right : Int}
    (agree : ∀ place, left.testBit place = right.testBit place) :
    left = right := by
  cases left with
  | ofNat left =>
      cases right with
      | ofNat right =>
          exact congrArg Int.ofNat (Nat.eq_of_testBit_eq agree)
      | negSucc right =>
          rcases exists_testBit_ne left right with ⟨place, differ⟩
          exact absurd (agree place) differ
  | negSucc left =>
      cases right with
      | ofNat right =>
          rcases exists_testBit_ne right left with ⟨place, differ⟩
          exact absurd (agree place).symm differ
      | negSucc right =>
          refine congrArg Int.negSucc (Nat.eq_of_testBit_eq fun place => ?_)
          simpa [Int.testBit] using agree place

/--
The bits of the integer that a bit vector denotes: its own bits, and then its
sign over and over.
-/
theorem testBit_toInt {width : Nat} (bits : BitVec width) (place : Nat) :
    bits.toInt.testBit place =
      if place < width then bits.getLsbD place else bits.msb := by
  have below := bits.isLt
  by_cases negative : bits.msb
  · have value :
        bits.toInt = Int.negSucc (2 ^ width - (bits.toNat + 1)) := by
      rw [BitVec.toInt_eq_msb_cond, if_pos negative, Int.negSucc_eq]
      push_cast [Nat.cast_sub (Nat.succ_le_of_lt below)]
      omega
    rw [value, Int.testBit, Nat.testBit_two_pow_sub_succ below,
      BitVec.testBit_toNat]
    by_cases inside : place < width
    · simp [inside]
    · simp [inside, negative]
  · have value : bits.toInt = (bits.toNat : Int) := by
      rw [BitVec.toInt_eq_msb_cond, if_neg negative]
    have bit : bits.toInt.testBit place = bits.getLsbD place := by
      rw [value, ← BitVec.testBit_toNat]
      rfl
    rw [bit]
    by_cases inside : place < width
    · rw [if_pos inside]
    · rw [if_neg inside, Bool.eq_false_iff.mpr negative]
      exact BitVec.getLsbD_of_ge bits place (by omega)

namespace Int128

/-! ## Operations on the bits -/

@[simp]
theorem toInt_and (left right : Int128) :
    (left.and right).toInt = left.toInt.land right.toInt := by
  apply int_eq_of_testBit_eq
  intro place
  simp only [toInt, and, testBit_toInt, Int.testBit_land]
  split <;> simp

@[simp]
theorem toInt_or (left right : Int128) :
    (left.or right).toInt = left.toInt.lor right.toInt := by
  apply int_eq_of_testBit_eq
  intro place
  simp only [toInt, or, testBit_toInt, Int.testBit_lor]
  split <;> simp

@[simp]
theorem toInt_xor (left right : Int128) :
    (left.xor right).toInt = left.toInt.xor right.toInt := by
  apply int_eq_of_testBit_eq
  intro place
  simp only [toInt, xor, testBit_toInt, Int.testBit_lxor]
  split <;> simp

@[simp]
theorem toInt_complement (value : Int128) :
    value.complement.toInt = value.toInt.lnot := by
  apply int_eq_of_testBit_eq
  intro place
  simp only [toInt, complement, testBit_toInt, Int.testBit_lnot]
  split <;> simp_all

@[simp]
theorem toInt_andNot (left right : Int128) :
    (left.andNot right).toInt = left.toInt.ldiff right.toInt := by
  apply int_eq_of_testBit_eq
  intro place
  rw [andNot, toInt_and, toInt_complement]
  simp

/-! ## Shifts -/

theorem toInt_between_two_pow (value : Int128) {count : Nat}
    (wide : 127 ≤ count) :
    -(2 : Int) ^ count ≤ value.toInt ∧ value.toInt < 2 ^ count := by
  have range := value.inRange_toInt
  have grows : (2 : Int) ^ 127 ≤ 2 ^ count :=
    pow_le_pow_right₀ (by norm_num) wide
  simp only [InRange, bound, Nat.pow_eq] at range
  push_cast at range
  constructor <;> linarith

/-- A power of two beyond the width leaves only the sign of a word. -/
theorem toInt_ediv_two_pow (value : Int128) {count : Nat}
    (wide : 127 ≤ count) :
    value.toInt / 2 ^ count = if value.toInt < 0 then -1 else 0 := by
  rcases value.toInt_between_two_pow wide with ⟨lower, upper⟩
  split
  · next negative =>
      apply Int.ediv_eq_iff_of_pos (by positivity) |>.mpr
      constructor <;> linarith
  · next nonnegative =>
      exact Int.ediv_eq_zero_of_lt (not_lt.mp nonnegative) upper

/-- Shifting to the right divides by the power of two and rounds down. -/
@[simp]
theorem toInt_shiftRight (value : Int128) (count : Nat) :
    (value.shiftRight count).toInt = value.toInt / 2 ^ count := by
  have shifted :
      (value.shiftRight count).toInt = value.toInt / 2 ^ min count 128 := by
    rw [shiftRight, toInt, BitVec.toInt_sshiftRight, Int.shiftRight_eq_div_pow]
    norm_cast
  rw [shifted]
  -- Counts from 128 on all shift as 128 does: both quotients are the sign.
  by_cases wide : 128 ≤ count
  · rw [min_eq_right wide, value.toInt_ediv_two_pow (by omega),
      value.toInt_ediv_two_pow (by omega)]
  · rw [min_eq_left (by omega)]

theorem shiftLeft?_eq_some_iff {value result : Int128} {count : Nat} :
    value.shiftLeft? count = some result ↔
      result.toInt = value.toInt * 2 ^ count := by
  unfold shiftLeft?
  split_ifs with zero wide
  · rw [zero, zero_mul, Option.some.injEq, ← toInt_inj, zero]
    exact eq_comm
  -- A word other than zero times at least 2 ^ 128 is not a word.
  · simp only [false_iff]
    intro product
    rcases result.toInt_between_two_pow (le_refl 127) with ⟨lower, upper⟩
    have grows : (2 : Int) ^ 128 ≤ 2 ^ count :=
      pow_le_pow_right₀ (by norm_num) wide
    rcases lt_or_gt_of_ne zero with negative | positive
    · have beyond : value.toInt * 2 ^ count ≤ -1 * 2 ^ count :=
        mul_le_mul_of_nonneg_right (by omega) (by positivity)
      linarith
    · have beyond : 1 * 2 ^ count ≤ value.toInt * 2 ^ count :=
        mul_le_mul_of_nonneg_right (by omega) (by positivity)
      linarith
  · rw [ofInt?_eq_some_iff]
    norm_cast

end Int128

end TypeRules
