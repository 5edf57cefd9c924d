import TypeRules.Proofs.Assignability
import TypeRules.Proofs.Faults

/-!
# Constants that integer types can represent

An integer type takes a constant of integer form exactly if its width is one of
those that hold constants and the value lies between the bounds that the width
gives.  This is so for every width, also for those that no arena makes a type
of, and whether or not the type has a name.

The bounds are worked out on words.  `Strict.intRange?` meets with a fault where
a sum does not fit into a word or a word is shifted too far, but bits that a
shift pushes out are lost without a fault.  `Strict.wholeIntRange?` goes through
the same steps and lets no bit be lost; it never meets with a fault either.
-/

namespace TypeRules

/-! ## Bounds without a lost bit -/

namespace Strict

/-- The bits of a word moved up, where losing one of them is a fault. -/
def wholeShiftedUp (value : Int128) (count : Int) : Checked Int128 := do
  let shifted ← shiftedUp value count
  let product := value.toInt * 2 ^ count.toNat
  if shifted.toInt = product then return shifted
  else throw (.overflow product)

/-- The range of an integer type, every step of it being exact. -/
def wholeIntRange? (options : Options) (unsigned : Bool) (width : Nat) :
    Checked (Option IntRange) :=
  if holdsConstants width then do
    let one ← word 1
    let half ← wholeShiftedUp one ((width - 1 : Nat) : Int)
    if unsigned && options.unsignedRange = .exact then
      let whole ← wholeShiftedUp half 1
      let greatest ← word (whole.toInt - 1)
      return some ⟨0, greatest.toInt⟩
    else
      let least ← word (-half.toInt)
      let greatest ← word (half.toInt - 1)
      return some ⟨least.toInt, greatest.toInt⟩
  else return none

/-- A product that fits into a word is reached without losing a bit. -/
theorem wholeShiftedUp_eq_of_toInt {value result : Int128} {count : Nat}
    (inside : count < 128)
    (product : result.toInt = value.toInt * 2 ^ count) :
    wholeShiftedUp value count = .ok result := by
  rw [wholeShiftedUp, shiftedUp_eq_of_toInt inside product, ok_bind,
    Int.toNat_natCast, if_pos product]
  rfl

/-- No shift on the way to a range loses a bit. -/
theorem wholeIntRange?_eq (options : Options) (unsigned : Bool)
    (width : Nat) :
    wholeIntRange? options unsigned width =
      intRange? options unsigned width := by
  rw [wholeIntRange?, intRange?]
  by_cases holds : holdsConstants width = true
  · have bounds := holdsConstants_iff.mp holds
    rcases Nat.exists_eq_add_of_le' bounds.1 with ⟨places, rfl⟩
    have positive : (0 : Int) < 2 ^ places := by positivity
    have small : (2 : Int) ^ places ≤ 2 ^ 63 :=
      pow_le_pow_right₀ (by norm_num) (by omega)
    rcases @exists_word 1 (by norm_num) (by norm_num) with ⟨one, oneValue⟩
    rcases @exists_word (2 ^ places) (by linarith) (by linarith) with
      ⟨half, halfValue⟩
    rcases @exists_word (2 ^ places * 2) (by linarith) (by linarith) with
      ⟨whole, wholeValue⟩
    have halved : half.toInt = one.toInt * 2 ^ places := by
      rw [halfValue, oneValue, one_mul]
    have doubled : whole.toInt = half.toInt * 2 ^ 1 := by
      rw [wholeValue, halfValue, pow_one]
    have inside : places < 128 := by omega
    have twice : wholeShiftedUp half 1 = shiftedUp half 1 := by
      rw [← Nat.cast_one, wholeShiftedUp_eq_of_toInt (by norm_num) doubled,
        shiftedUp_eq_of_toInt (by norm_num) doubled]
    rw [if_pos holds, if_pos holds, word_eq oneValue, Nat.add_sub_cancel]
    simp only [ok_bind, wholeShiftedUp_eq_of_toInt inside halved,
      shiftedUp_eq_of_toInt inside halved, twice]
  · rw [if_neg holds, if_neg holds]

end Strict

/-! ## Constants and integer types -/

/-- An integer type takes the integral constants that it holds. -/
theorem Checker.assign_constant_iff {checker : Checker} {span : Span}
    {dest source : Ty} {constant : Constant}
    (integer : dest.kind.isInteger = true)
    (untyped : source.kind = .untyped constant)
    (unique : dest.id = source.id → dest = source) :
    (checker.assign span dest source).1 = true ↔
      constant.isIntegral = true ∧
        dest.kind.Holds checker.options constant.toInt128.toInt := by
  have differ : dest.id ≠ source.id := by
    intro ids
    rw [unique ids, untyped] at integer
    cases integer
  have shut : ¬ dest.acceptsOutright checker.options source = true := by
    rw [Ty.acceptsOutright_iff]
    cases kind : dest.kind <;> simp_all [Kind.isInteger]
  have proper : ¬ ∃ width, dest.kind = .float width := by
    rintro ⟨width, float⟩
    rw [float] at integer
    cases integer
  rw [assign_eq_true_iff, Ty.obstacle?_eq, if_neg shut, untyped,
    Kind.obstacle?, Ty.constantObstacle?_eq_none_iff, or_iff_right proper]

/--
A constant of integer form goes into an integer type exactly if the type can
represent it, or if the signed type of the same width can where that range is
asked for.  A width of no bits or of more than 64 takes no constant.  The bounds
are worked out without leaving the integers that a word holds.
-/
theorem Checker.integer_accepted_iff_representable (checker : Checker)
    (span : Span) (width : Nat) {dest source : Ty} {text : String}
    {value : Int128}
    (constant : source.kind = .untyped ⟨text, .integer value⟩)
    (unique : dest.id = source.id → dest = source) :
    (dest.kind = .int width →
      ((checker.assign span dest source).1 = true ↔
        (1 ≤ width ∧ width ≤ 64) ∧
          -2 ^ (width - 1) ≤ value.toInt ∧
            value.toInt ≤ 2 ^ (width - 1) - 1)) ∧
    (dest.kind = .uint width →
      ((checker.assign span dest source).1 = true ↔
        (1 ≤ width ∧ width ≤ 64) ∧
          match checker.options.unsignedRange with
          | .exact => 0 ≤ value.toInt ∧ value.toInt ≤ 2 ^ width - 1
          | .signed =>
              -2 ^ (width - 1) ≤ value.toInt ∧
                value.toInt ≤ 2 ^ (width - 1) - 1)) ∧
    Strict.wholeIntRange? checker.options false width =
      .ok ((Kind.int width).constantRange? checker.options) ∧
    Strict.wholeIntRange? checker.options true width =
      .ok ((Kind.uint width).constantRange? checker.options) := by
  have accepted (integer : dest.kind.isInteger = true) :
      (checker.assign span dest source).1 = true ↔
        dest.kind.Holds checker.options value.toInt := by
    rw [assign_constant_iff integer constant unique]
    exact and_iff_right rfl
  simp only [Int.le_sub_one_iff]
  refine ⟨?_, ?_, ?_, ?_⟩
  · intro signed
    rw [accepted (by rw [signed]; rfl), signed]
    exact Iff.rfl
  · intro unsigned
    rw [accepted (by rw [unsigned]; rfl), unsigned]
    exact Iff.rfl
  · rw [Strict.wholeIntRange?_eq, Strict.intRange?_int]
  · rw [Strict.wholeIntRange?_eq, Strict.intRange?_uint]

/--
The greatest integer of 64 bits goes into the unsigned type of 64 bits and the
one after it does not.  Nothing at all goes into a type of 65 bits.
-/
theorem Checker.integer_accepted_up_to_greatest :
    let checker := initial .standard
    let greatest : Ty :=
      ⟨1, none, .untyped ⟨"18446744073709551615",
        .integer ⟨18446744073709551615⟩⟩⟩
    let next : Ty :=
      ⟨2, none, .untyped ⟨"18446744073709551616",
        .integer ⟨18446744073709551616⟩⟩⟩
    (checker.assign .unplaced ⟨0, none, .uint 64⟩ greatest).1 = true ∧
      ¬ (checker.assign .unplaced ⟨0, none, .uint 64⟩ next).1 = true ∧
      ¬ (checker.assign .unplaced ⟨0, none, .uint 65⟩ greatest).1 = true := by
  intro checker greatest next
  have apart {width : Nat} {source : Ty} (positive : 0 < source.id) :
      (⟨0, none, .uint width⟩ : Ty).id = source.id →
        ⟨0, none, .uint width⟩ = source :=
    fun ids => absurd ids positive.ne
  have greatestIff (width : Nat) :=
    (integer_accepted_iff_representable checker .unplaced width
      (show greatest.kind = _ from rfl) (apart (by decide))).2.1 rfl
  have nextIff :=
    (integer_accepted_iff_representable checker .unplaced 64
      (show next.kind = _ from rfl) (apart (by decide))).2.1 rfl
  refine ⟨(greatestIff 64).mpr ⟨by decide, by decide, by decide⟩, ?_, ?_⟩
  · intro accepted
    exact absurd (nextIff.mp accepted).2.2 (by decide)
  · intro accepted
    exact absurd ((greatestIff 65).mp accepted).1.2 (by decide)

end TypeRules
