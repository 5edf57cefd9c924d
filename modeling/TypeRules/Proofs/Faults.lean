import TypeRules.Constant.Literal
import TypeRules.Operation
import TypeRules.Proofs.WordArithmetic

/-!
# Constants without faults

What the checker does rests on primitives that cannot do everything they can be
asked for.  A word is shifted by fewer places than it has bits, integers are
taken to fit into words, a text is cut between characters.  A primitive that is
asked for more meets with a fault.

The definitions in the namespace `Strict` decide the same questions as those of
the checker, but by such primitives and step by step.  None of them ever meets
with a fault, and each gives what the definition of the checker gives.  Here
this is shown of the ranges of integer types, of folding, where a shift to the
left is undone to see whether bits were lost, and of reading literals.
-/

namespace TypeRules

/-- Why a primitive cannot do what it is asked for. -/
inductive Fault where
  /-- There is no element at the index. -/
  | noElement (index : Nat)
  /-- An atom has no text. -/
  | unknownAtom (atom : Atom)
  /-- An atom that is to get a text has one. -/
  | knownAtom (atom : Atom)
  /-- A word cannot be shifted by so many places. -/
  | shiftCount (count : Int)
  /-- A word cannot hold the value. -/
  | overflow (value : Int)
  /-- The offset is beyond the text or within a character. -/
  | noBoundary (offset : Nat)
  /-- The operator is not one of double precision. -/
  | notOnDoubles (op : BinaryOp)
  /-- There is no id left. -/
  | idsExhausted
  deriving DecidableEq

/-- A result, or the fault that was met with. -/
abbrev Checked : Type → Type :=
  Except Fault

namespace Strict

@[simp]
theorem ok_bind {α β : Type} (value : α) (next : α → Checked β) :
    (Except.ok value >>= next) = next value :=
  rfl

/-! ## Words -/

/-- The word for an integer that is taken to have one. -/
def word (value : Int) : Checked Int128 :=
  match Int128.ofInt? value with
  | some word => return word
  | none => throw (.overflow value)

/-- The bits of a word moved up. -/
def shiftedUp (value : Int128) (count : Int) : Checked Int128 :=
  if 0 ≤ count ∧ count < 128 then return ⟨value.toBitVec <<< count.toNat⟩
  else throw (.shiftCount count)

/-- The bits of a word moved down, the sign being kept. -/
def shiftedDown (value : Int128) (count : Int) : Checked Int128 :=
  if 0 ≤ count ∧ count < 128 then
    return ⟨value.toBitVec.sshiftRight count.toNat⟩
  else throw (.shiftCount count)

/-- A shift to the left, undone to see whether bits were lost. -/
def shiftLeft? (value count : Int128) : Checked (Option Int128) :=
  if value.toInt = 0 then return some value
  else if 128 ≤ count.toInt then return none
  else do
    let shifted ← shiftedUp value count.toInt
    let back ← shiftedDown shifted count.toInt
    return if back = value then some shifted else none

/-- A shift to the right, where far shifts leave the sign. -/
def shiftRight (value count : Int128) : Checked Int128 :=
  if 128 ≤ count.toInt then word (if value.toInt < 0 then -1 else 0)
  else shiftedDown value count.toInt

theorem word_eq {value : Int} {result : Int128} (holds : result.toInt = value) :
    word value = .ok result := by
  rw [word, Int128.ofInt?_eq_some_iff.mpr holds]
  rfl

theorem toInt_shiftLeft (bits : BitVec 128) (count : Nat) :
    (bits <<< count).toInt = (bits.toInt * 2 ^ count).bmod (2 ^ 128) := by
  rw [BitVec.toInt_shiftLeft, Nat.shiftLeft_eq, BitVec.toInt_eq_toNat_bmod,
    Int.bmod_mul_bmod]
  push_cast
  rfl

theorem two_pow_dvd_toInt_shiftLeft (bits : BitVec 128) {count : Nat}
    (inside : count < 128) : (2 : Int) ^ count ∣ (bits <<< count).toInt := by
  rw [toInt_shiftLeft]
  -- What the residue leaves out is a multiple of a higher power of two.
  have residue :
      (2 : Int) ^ count ∣
        bits.toInt * 2 ^ count - (bits.toInt * 2 ^ count).bmod (2 ^ 128) := by
    refine dvd_trans (pow_dvd_pow 2 inside.le) ?_
    exact_mod_cast Int.dvd_self_sub_bmod
  exact (Int.dvd_iff_dvd_of_dvd_sub residue).mp (Int.dvd_mul_left _ _)

/-- Moving bits up and down again gives the word back if no bit was lost. -/
theorem sshiftRight_shiftLeft_eq_iff (bits : BitVec 128) {count : Nat}
    (inside : count < 128) :
    (bits <<< count).sshiftRight count = bits ↔
      (bits <<< count).toInt = bits.toInt * 2 ^ count := by
  rw [← BitVec.toInt_inj, BitVec.toInt_sshiftRight, Int.shiftRight_eq_div_pow]
  push_cast
  constructor
  · intro back
    rw [← Int.ediv_mul_cancel (two_pow_dvd_toInt_shiftLeft bits inside), back]
  · intro whole
    rw [whole, Int.mul_ediv_cancel _ (by positivity)]

theorem shiftedUp_eq (value : Int128) {count : Nat} (inside : count < 128) :
    shiftedUp value count = .ok ⟨value.toBitVec <<< count⟩ := by
  rw [shiftedUp, if_pos (by omega), Int.toNat_natCast]
  rfl

theorem shiftedDown_eq (value : Int128) {count : Nat} (inside : count < 128) :
    shiftedDown value count = .ok (value.shiftRight count) := by
  rw [shiftedDown, if_pos (by omega), Int.toNat_natCast, Int128.shiftRight,
    min_eq_left inside.le]
  rfl

/-- Bits moved up are the product if it fits into a word. -/
theorem shiftLeft_eq_of_toInt {value result : Int128} {count : Nat}
    (product : result.toInt = value.toInt * 2 ^ count) :
    (⟨value.toBitVec <<< count⟩ : Int128) = result := by
  rw [← Int128.toInt_inj]
  calc
    (value.toBitVec <<< count).toInt =
        (value.toInt * 2 ^ count).bmod (2 ^ 128) :=
      toInt_shiftLeft value.toBitVec count
    _ = result.toInt.bmod (2 ^ 128) := by rw [product]
    _ = result.toInt := result.toBitVec.toInt_bmod_cancel

theorem shiftedUp_eq_of_toInt {value result : Int128} {count : Nat}
    (inside : count < 128)
    (product : result.toInt = value.toInt * 2 ^ count) :
    shiftedUp value count = .ok result := by
  rw [shiftedUp_eq value inside, shiftLeft_eq_of_toInt product]

/-- Bits were lost exactly where the product does not fit into a word. -/
theorem ite_shiftRight_eq (value : Int128) {count : Nat}
    (inside : count < 128) :
    (if (⟨value.toBitVec <<< count⟩ : Int128).shiftRight count = value then
        some (⟨value.toBitVec <<< count⟩ : Int128)
      else none) =
      value.shiftLeft? count := by
  have back :
      (⟨value.toBitVec <<< count⟩ : Int128).shiftRight count = value ↔
        (value.toBitVec <<< count).toInt = value.toInt * 2 ^ count := by
    rw [Int128.toInt, ← sshiftRight_shiftLeft_eq_iff value.toBitVec inside,
      Int128.shiftRight, min_eq_left inside.le]
    constructor
    · intro same
      exact congrArg Int128.toBitVec same
    · intro same
      exact congrArg Int128.mk same
  split_ifs with kept
  · exact (Int128.shiftLeft?_eq_some_iff.mpr (back.mp kept)).symm
  · cases held : value.shiftLeft? count with
    | none => rfl
    | some result =>
        have product := Int128.shiftLeft?_eq_some_iff.mp held
        rw [← shiftLeft_eq_of_toInt product] at product
        exact (kept (back.mpr product)).elim

variable {value count : Int128}

theorem shiftLeft?_eq (nonnegative : 0 ≤ count.toInt) :
    shiftLeft? value count = .ok (value.shiftLeft? count.toInt.toNat) := by
  rcases Int.eq_ofNat_of_zero_le nonnegative with ⟨places, count⟩
  rw [shiftLeft?, count, Int.toNat_natCast]
  split_ifs with zero wide
  · rw [Int128.shiftLeft?, if_pos zero]
    rfl
  · rw [Int128.shiftLeft?, if_neg zero, if_pos (by omega)]
    rfl
  · have inside : places < 128 := by omega
    rw [shiftedUp_eq value inside, ← ite_shiftRight_eq value inside]
    simp only [bind, Except.bind, shiftedDown_eq _ inside]
    rfl

theorem shiftRight_eq (nonnegative : 0 ≤ count.toInt) :
    shiftRight value count = .ok (value.shiftRight count.toInt.toNat) := by
  rcases Int.eq_ofNat_of_zero_le nonnegative with ⟨places, count⟩
  rw [shiftRight, count, Int.toNat_natCast]
  by_cases wide : 128 ≤ (places : Int)
  · rw [if_pos wide]
    apply word_eq
    rw [Int128.toInt_shiftRight, value.toInt_ediv_two_pow (by omega)]
  · rw [if_neg wide]
    exact shiftedDown_eq value (by omega)

/-! ## Ranges -/

/-- The range of an integer type, from a one that is shifted. -/
def intRange? (options : Options) (unsigned : Bool) (width : Nat) :
    Checked (Option IntRange) :=
  if holdsConstants width then do
    let one ← word 1
    let half ← shiftedUp one ((width - 1 : Nat) : Int)
    if unsigned && options.unsignedRange = .exact then
      let whole ← shiftedUp half 1
      let greatest ← word (whole.toInt - 1)
      return some ⟨0, greatest.toInt⟩
    else
      let least ← word (-half.toInt)
      let greatest ← word (half.toInt - 1)
      return some ⟨least.toInt, greatest.toInt⟩
  else return none

/-- Integers of up to 65 bits have a word. -/
theorem exists_word {value : Int} (lower : -(2 : Int) ^ 64 ≤ value)
    (upper : value ≤ 2 ^ 64) : ∃ word : Int128, word.toInt = value := by
  refine ⟨⟨BitVec.ofInt 128 value⟩, Int128.toInt_ofInt ⟨?_, ?_⟩⟩
  · simp only [Int128.bound, Nat.pow_eq]
    omega
  · simp only [Int128.bound, Nat.pow_eq]
    omega

theorem intRange?_eq (options : Options) (unsigned : Bool) {width : Nat}
    (holds : holdsConstants width = true) :
    intRange? options unsigned width =
      .ok (some
        (if unsigned && options.unsignedRange = .exact then .unsigned width
        else .signed width)) := by
  have bounds : 1 ≤ width ∧ width ≤ 64 := by
    simpa [holdsConstants] using holds
  rcases Nat.exists_eq_add_of_le' bounds.1 with ⟨places, rfl⟩
  have positive : (0 : Int) < 2 ^ places := by positivity
  have small : (2 : Int) ^ places ≤ 2 ^ 63 :=
    pow_le_pow_right₀ (by norm_num) (by omega)
  rcases @exists_word 1 (by norm_num) (by norm_num) with ⟨one, oneValue⟩
  rcases @exists_word (2 ^ places) (by linarith) (by linarith) with
    ⟨half, halfValue⟩
  have halved : shiftedUp one places = .ok half := by
    apply shiftedUp_eq_of_toInt (by omega)
    rw [halfValue, oneValue, one_mul]
  rw [intRange?, if_pos holds, word_eq oneValue]
  simp only [bind, Except.bind, Nat.add_sub_cancel, halved]
  split_ifs with wide
  · rcases @exists_word (2 ^ places * 2) (by linarith) (by linarith) with
      ⟨whole, wholeValue⟩
    rcases @exists_word (2 ^ places * 2 - 1) (by linarith) (by linarith) with
      ⟨greatest, greatestValue⟩
    have doubled : shiftedUp half 1 = .ok whole := by
      rw [← Nat.cast_one]
      apply shiftedUp_eq_of_toInt (by omega)
      rw [wholeValue, halfValue, pow_one]
    simp only [doubled, wholeValue, word_eq greatestValue, greatestValue]
    simp [pure, Except.pure, IntRange.unsigned, pow_succ]
  · rcases @exists_word (-2 ^ places) (by linarith) (by linarith) with
      ⟨least, leastValue⟩
    rcases @exists_word (2 ^ places - 1) (by linarith) (by linarith) with
      ⟨greatest, greatestValue⟩
    simp only [halfValue, word_eq leastValue, word_eq greatestValue,
      leastValue, greatestValue]
    simp [pure, Except.pure, IntRange.signed]

theorem intRange?_int (options : Options) (width : Nat) :
    intRange? options false width =
      .ok ((Kind.int width).constantRange? options) := by
  by_cases holds : holdsConstants width = true
  · simp [intRange?_eq options false holds, Kind.constantRange?, holds]
  · rw [intRange?, Kind.constantRange?, if_neg holds, if_neg holds]
    rfl

theorem intRange?_uint (options : Options) (width : Nat) :
    intRange? options true width =
      .ok ((Kind.uint width).constantRange? options) := by
  by_cases holds : holdsConstants width = true
  · rw [intRange?_eq options true holds, Kind.constantRange?, if_pos holds]
    cases options.unsignedRange <;> rfl
  · rw [intRange?, Kind.constantRange?, if_neg holds, if_neg holds]
    rfl

/-! ## Folding -/

/-- An operator on integers, shifts being made of words. -/
def onIntegers (op : BinaryOp) (left right : Int128) :
    Checked (Except BinaryOp.Undefined Int128) :=
  match op with
  | .shiftLeft => return BinaryOp.held (← shiftLeft? left right)
  | .shiftRight => return .ok (← shiftRight left right)
  | op => return op.onIntegers left right

/-- Fold two constants by their integer values. -/
def foldIntegers (op : BinaryOp) (left right : Constant) :
    Checked (Except FoldFailure Constant) := do
  match ← onIntegers op left.toInt128 right.toInt128 with
  | .ok value => return .ok (.ofInt128 value)
  | .error .outOfRange =>
      return .error (.overflow (Constant.expression op left right))
  | .error .zeroDivisor => return .error .divisionByZero

/-- Fold two constants in double precision, where the operator has it. -/
def foldDoubles (op : BinaryOp) (left right : Constant) :
    Checked (Except FoldFailure Constant) :=
  match op.onDoubles? with
  | some operation => return Constant.foldDoubles op operation left right
  | none => throw (.notOnDoubles op)

/-- Fold two constants, or nothing where folding does not apply. -/
def fold? (op : BinaryOp) (left right : Constant) :
    Checked (Option (Except FoldFailure Constant)) :=
  match op with
  | .add | .sub | .mul | .div =>
      if left.isExactInteger && right.isExactInteger then
        some <$> foldIntegers op left right
      else some <$> foldDoubles op left right
  | .rem | .bitAnd | .bitOr | .bitXor | .bitClear =>
      if left.isIntegral && right.isIntegral then
        some <$> foldIntegers op left right
      else return none
  | .shiftLeft | .shiftRight =>
      if !left.isIntegral then return none
      else if !right.isIntegral || right.toInt128.toInt < 0 then
        return some (.error (.invalidShiftCount right.text))
      else some <$> foldIntegers op left right

theorem onIntegers_eq {op : BinaryOp} (left : Int128) {right : Int128}
    (count : op.isShift = true → 0 ≤ right.toInt) :
    onIntegers op left right = .ok (op.onIntegers left right) := by
  cases op with
  | shiftLeft =>
      rw [onIntegers, shiftLeft?_eq (count rfl)]
      rfl
  | shiftRight =>
      rw [onIntegers, shiftRight_eq (count rfl)]
      rfl
  | add | sub | mul | div | rem | bitAnd | bitOr | bitXor | bitClear => rfl

theorem foldIntegers_eq {op : BinaryOp} (left : Constant) {right : Constant}
    (count : op.isShift = true → 0 ≤ right.toInt128.toInt) :
    foldIntegers op left right = .ok (left.foldIntegers op right) := by
  rw [foldIntegers, onIntegers_eq _ count, Constant.foldIntegers]
  cases op.onIntegers left.toInt128 right.toInt128 with
  | ok value => rfl
  | error undefined => cases undefined <;> rfl

/-- Folding meets with no fault: counts are tested before words are shifted. -/
theorem fold?_eq (op : BinaryOp) (left right : Constant) :
    fold? op left right = .ok (left.fold? op right) := by
  cases op with
  | add | sub | mul | div =>
      simp only [fold?, Constant.fold?, BinaryOp.onDoubles?]
      split_ifs
      · rw [foldIntegers_eq left (by simp [BinaryOp.isShift])]
        rfl
      · rfl
  | rem | bitAnd | bitOr | bitXor | bitClear =>
      simp only [fold?, Constant.fold?, BinaryOp.onDoubles?]
      rw [foldIntegers_eq left (by simp [BinaryOp.isShift])]
      cases left.isIntegral <;> cases right.isIntegral <;> rfl
  | shiftLeft | shiftRight =>
      simp only [fold?, Constant.fold?, BinaryOp.onDoubles?]
      have tests :
          (!right.isIntegral || decide (right.toInt128.toInt < 0)) =
            !(right.isIntegral && decide (0 ≤ right.toInt128.toInt)) := by
        rw [Bool.not_and, ← decide_not, decide_eq_decide.mpr not_le.symm]
      rw [tests]
      cases valid :
          right.isIntegral && decide (0 ≤ right.toInt128.toInt) with
      | false => cases left.isIntegral <;> rfl
      | true =>
          rw [Bool.and_eq_true, decide_eq_true_iff] at valid
          rw [foldIntegers_eq left fun _ => valid.2]
          cases left.isIntegral <;> rfl

/-! ## Literals -/

/-- The number of bytes that a text takes. -/
def byteLength (text : List Char) : Nat :=
  (text.map Char.utf8Size).sum

/-- The text from an offset in bytes on, which has to be between characters. -/
def cutAt (offset : Nat) : List Char → Checked (List Char)
  | [] => if offset = 0 then return [] else throw (.noBoundary offset)
  | char :: text =>
      if offset = 0 then return char :: text
      else if char.utf8Size ≤ offset then cutAt (offset - char.utf8Size) text
      else throw (.noBoundary offset)

/-- The radix of a literal and its digits, a leading zero being cut off. -/
def splitRadix (text : List Char) : Checked (Nat × List Char) :=
  match text with
  | '0' :: 'x' :: digits => return (16, digits)
  | '0' :: 'o' :: digits => return (8, digits)
  | '0' :: 'b' :: digits => return (2, digits)
  | text =>
      if 1 < byteLength text ∧ text.head? = some '0' then do
        return (8, ← cutAt 1 text)
      else return (10, text)

/-- A magnitude with its sign. -/
def withSign (negative : Bool) (magnitude : Int128) : Checked Int128 :=
  if negative then word (-magnitude.toInt) else return magnitude

/-- Read an integer literal, the sign being put on last. -/
def readInteger? (text : List Char) : Checked (Option Int128) := do
  let (negative, rest) := Decimal.splitSign text
  let (radix, digits) ←
    splitRadix ((Literal.withoutSeparators rest).map Char.toLower)
  match (Literal.digitsIn? radix digits).bind (Int128.ofInt? ·) with
  | some magnitude => return some (← withSign negative magnitude)
  | none => return none

/-- The constant that a literal denotes. -/
def ofLiteral? (text : String) : Checked (Option Constant) := do
  match ← readInteger? text.toList with
  | some value => return some ⟨text, .integer value⟩
  | none =>
      return (Literal.readFloating? text.toList).map fun value =>
        ⟨text, .floating value⟩

theorem one_lt_byteLength (first second : Char) (text : List Char) :
    1 < byteLength (first :: second :: text) := by
  have firstSize := first.utf8Size_pos
  have secondSize := second.utf8Size_pos
  simp only [byteLength, List.map_cons, List.sum_cons]
  omega

theorem cutAt_one_zero (text : List Char) :
    cutAt 1 ('0' :: text) = .ok text := by
  cases text <;> rfl

theorem splitRadix_eq (text : List Char) :
    splitRadix text = .ok (Literal.splitRadix text) := by
  fun_cases Literal.splitRadix text with
  | case1 | case2 | case3 => rfl
  | case4 digit digits hexadecimal octal binary =>
      rw [splitRadix, if_pos ⟨one_lt_byteLength _ _ _, rfl⟩, cutAt_one_zero]
      · rfl
      · simpa using hexadecimal
      · simpa using octal
      · simpa using binary
  | case5 text hexadecimal octal binary leading =>
      have short : ¬ (1 < byteLength text ∧ text.head? = some '0') := by
        rintro ⟨long, zero⟩
        match text with
        | [digit] =>
            cases zero
            exact absurd long (by decide)
        | digit :: next :: digits =>
            cases zero
            exact leading next digits rfl
      rw [splitRadix, if_neg short]
      · rfl
      · exact hexadecimal
      · exact octal
      · exact binary

/-- A magnitude can always be negated: it is not the least word. -/
theorem withSign_eq (negative : Bool) {magnitude : Nat} {value : Int128}
    (held : Int128.ofInt? magnitude = some value) :
    ∃ signed, withSign negative value = .ok signed ∧
      (if negative then value.neg? else some value) = some signed := by
  cases negative with
  | false => exact ⟨value, rfl, rfl⟩
  | true =>
      have size := Int128.ofInt?_eq_some_iff.mp held
      have range := value.inRange_toInt
      have negated : Int128.InRange (-value.toInt) := by
        rw [Int128.InRange, size] at range ⊢
        omega
      refine ⟨⟨BitVec.ofInt 128 (-value.toInt)⟩, ?_, ?_⟩
      · exact word_eq (Int128.toInt_ofInt negated)
      · exact Int128.ofInt?_eq_some_iff.mpr (Int128.toInt_ofInt negated)

theorem readInteger?_eq (text : List Char) :
    readInteger? text = .ok (Literal.readInteger? text) := by
  unfold readInteger? Literal.readInteger?
  rcases Decimal.splitSign text with ⟨negative, rest⟩
  dsimp only
  rw [splitRadix_eq, ok_bind]
  rcases Literal.splitRadix ((Literal.withoutSeparators rest).map Char.toLower)
    with ⟨radix, digits⟩
  dsimp only
  cases Literal.digitsIn? radix digits with
  | none => rfl
  | some magnitude =>
      rw [Option.bind_some, Option.bind_eq_bind, Option.bind_some]
      cases held : Int128.ofInt? magnitude with
      | none => rfl
      | some value =>
          rcases withSign_eq negative held with ⟨signed, strict, plain⟩
          rw [Option.bind_eq_bind, Option.bind_some, plain]
          dsimp only
          rw [strict, ok_bind]
          rfl

theorem ofLiteral?_eq (text : String) :
    ofLiteral? text = .ok (Constant.ofLiteral? text) := by
  rw [ofLiteral?, readInteger?_eq, Constant.ofLiteral?, Literal.read?]
  cases Literal.readInteger? text.toList with
  | some value => rfl
  | none =>
      dsimp only
      rw [Option.map_map]
      rfl

end Strict

end TypeRules
