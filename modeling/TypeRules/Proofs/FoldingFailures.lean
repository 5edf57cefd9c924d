import TypeRules.Proofs.ExactFolding

/-!
# When folding fails

Where folding constants of integer form gives a constant, the constant is
exact.  This module is about the operations that give none.  `BinaryOp.Fails`
and `UnaryOp.Fails` list their failures by conditions on unbounded integers,
each with what is reported.  The first main result is that operators other than
the remainder fail in the listed cases and in no others.

A remainder can always be held, so that only a zero divisor leaves none.  But
quotient and remainder come from one division, and the quotient of the least
word by minus one cannot be held.  The second main result is that a remainder by
any divisor other than zero folds, that one case apart.
-/

namespace TypeRules

/-! ## Words and exact operations -/

namespace Int128

theorem shiftLeft?_eq_ofInt? (value : Int128) (count : Nat) :
    value.shiftLeft? count = ofInt? (value.toInt * 2 ^ count) := by
  apply Option.ext
  intro result
  rw [shiftLeft?_eq_some_iff, ofInt?_eq_some_iff]

/-- The quotient of words can be held, unless it is `2 ^ 127`. -/
theorem inRange_tdiv {left right : Int128}
    (regular : ¬ (left.toInt = least ∧ right.toInt = -1)) :
    InRange (left.toInt.tdiv right.toInt) := by
  have range := left.inRange_toInt
  have divisors :
      right.toInt = 0 ∨ right.toInt = 1 ∨ right.toInt = -1 ∨
        2 ≤ right.toInt.natAbs := by
    omega
  rcases divisors with zero | one | minusOne | large
  · rw [zero, Int.tdiv_zero]
    decide
  · rw [one, Int.tdiv_one]
    exact range
  · have dividend : left.toInt ≠ least := fun isLeast =>
      regular ⟨isLeast, minusOne⟩
    rw [minusOne, Int.tdiv_neg, Int.tdiv_one]
    simp only [InRange, least] at range dividend ⊢
    omega
  · have halved : (left.toInt.tdiv right.toInt).natAbs ≤
        left.toInt.natAbs / 2 := by
      rw [Int.natAbs_tdiv]
      exact Nat.div_le_div_left large (by decide)
    have positive : 0 < bound := by decide
    simp only [InRange] at range ⊢
    omega

theorem rem?_eq_ofInt? {left right : Int128}
    (regular : ¬ (left.toInt = least ∧ right.toInt = -1)) :
    left.rem? right = ofInt? (left.toInt.tmod right.toInt) := by
  have quotient : left.div? right = some ⟨BitVec.ofInt 128 _⟩ :=
    if_pos (inRange_tdiv regular)
  rw [rem?, quotient, Option.bind_some]

/-- The remainder of words can be held, as it is smaller than the divisor. -/
theorem exists_toInt_eq_tmod (left : Int128) {right : Int128}
    (nonzero : right.toInt ≠ 0) :
    ∃ value : Int128, value.toInt = left.toInt.tmod right.toInt := by
  have smaller : (left.toInt.tmod right.toInt).natAbs <
      right.toInt.natAbs := by
    rw [Int.natAbs_tmod]
    exact Nat.mod_lt _ (by omega)
  have range := right.inRange_toInt
  refine ⟨⟨BitVec.ofInt 128 _⟩, toInt_ofInt ?_⟩
  simp only [InRange] at range ⊢
  omega

end Int128

namespace BinaryOp

/-- An exact result as a word; there is none for a zero divisor. -/
def inWord : Option Int → Except Undefined Int128
  | some value => held (Int128.ofInt? value)
  | none => .error .zeroDivisor

@[simp]
theorem inWord_toInt (value : Int128) :
    inWord (some value.toInt) = .ok value := by
  rw [inWord, Int128.ofInt?_toInt, held]

/-- An operation on words is the exact operation with its result as a word. -/
theorem onIntegers_eq_inWord {op : BinaryOp} {left right : Int128}
    (count : op.isShift = true → 0 ≤ right.toInt)
    (regular :
      op = .rem → ¬ (left.toInt = Int128.least ∧ right.toInt = -1)) :
    op.onIntegers left right =
      inWord (op.exactValue? left.toInt right.toInt) := by
  cases op with
  | add | sub | mul => rfl
  | div =>
      rw [onIntegers, exactValue?]
      split_ifs <;> rfl
  | rem =>
      rw [onIntegers, exactValue?, Int128.rem?_eq_ofInt? (regular rfl)]
      split_ifs <;> rfl
  | bitAnd =>
      rw [exactValue?, ← Int128.toInt_and, inWord_toInt]
      rfl
  | bitOr =>
      rw [exactValue?, ← Int128.toInt_or, inWord_toInt]
      rfl
  | bitXor =>
      rw [exactValue?, ← Int128.toInt_xor, inWord_toInt]
      rfl
  | bitClear =>
      rw [exactValue?, ← Int128.toInt_andNot, inWord_toInt]
      rfl
  | shiftLeft =>
      rw [exactValue?, if_neg (not_lt.mpr (count rfl)), onIntegers,
        Int128.shiftLeft?_eq_ofInt?]
      rfl
  | shiftRight =>
      rw [exactValue?, if_neg (not_lt.mpr (count rfl)),
        Int.fdiv_eq_ediv_of_nonneg _ (by positivity),
        ← Int128.toInt_shiftRight, inWord_toInt]
      rfl

end BinaryOp

/-! ## The failures of operators -/

/--
The failures of an operator on constants of the given texts and values.  The
bitwise operators have none.
-/
inductive BinaryOp.Fails (leftText rightText : String) (left right : Int) :
    BinaryOp → FoldFailure → Prop where
  | sum (beyond : ¬ Int128.InRange (left + right)) :
      Fails leftText rightText left right .add
        (.overflow (leftText ++ " + " ++ rightText))
  | difference (beyond : ¬ Int128.InRange (left - right)) :
      Fails leftText rightText left right .sub
        (.overflow (leftText ++ " - " ++ rightText))
  | product (beyond : ¬ Int128.InRange (left * right)) :
      Fails leftText rightText left right .mul
        (.overflow (leftText ++ " * " ++ rightText))
  | zeroDivisor (zero : right = 0) :
      Fails leftText rightText left right .div .divisionByZero
  | quotient (nonzero : right ≠ 0)
      (beyond : ¬ Int128.InRange (left.tdiv right)) :
      Fails leftText rightText left right .div
        (.overflow (leftText ++ " / " ++ rightText))
  | shiftLeftCount (negative : right < 0) :
      Fails leftText rightText left right .shiftLeft
        (.invalidShiftCount rightText)
  | shifted (count : 0 ≤ right)
      (beyond : ¬ Int128.InRange (left * 2 ^ right.toNat)) :
      Fails leftText rightText left right .shiftLeft
        (.overflow (leftText ++ " << " ++ rightText))
  | shiftRightCount (negative : right < 0) :
      Fails leftText rightText left right .shiftRight
        (.invalidShiftCount rightText)

/--
The failures of an operator on a constant of the given text and value.  Only
negation has one.
-/
inductive UnaryOp.Fails (text : String) (operand : Int) :
    UnaryOp → FoldFailure → Prop where
  | negation (beyond : ¬ Int128.InRange (-operand)) :
      Fails text operand .minus (.overflow ("-" ++ text))

section

variable {leftText rightText : String} {left right : Int128}

/--
An operation that is not a shift by a negative count fails where its exact
result is missing or cannot be held.
-/
theorem BinaryOp.fails_iff_of_count {op : BinaryOp} (other : op ≠ .rem)
    (count : op.isShift = true → 0 ≤ right.toInt) {failure : FoldFailure} :
    op.Fails leftText rightText left.toInt right.toInt failure ↔
      (op.exactValue? left.toInt right.toInt = none ∧
          failure = .divisionByZero) ∨
        ∃ value,
          op.exactValue? left.toInt right.toInt = some value ∧
            ¬ Int128.InRange value ∧
            failure =
              .overflow
                (leftText ++ (" " ++ op.token ++ " ") ++ rightText) := by
  constructor
  · intro fails
    cases fails with
    | sum beyond | difference beyond | product beyond =>
        exact Or.inr ⟨_, rfl, beyond, rfl⟩
    | zeroDivisor zero => exact Or.inl ⟨if_pos zero, rfl⟩
    | quotient nonzero beyond =>
        exact Or.inr ⟨_, if_neg nonzero, beyond, rfl⟩
    | shiftLeftCount negative | shiftRightCount negative =>
        exact absurd negative (not_lt.mpr (count rfl))
    | shifted _ beyond =>
        exact Or.inr ⟨_, if_neg (not_lt.mpr (count rfl)), beyond, rfl⟩
  · intro fails
    cases op with
    | add =>
        rcases fails with ⟨⟨⟩, -⟩ | ⟨_, ⟨⟩, beyond, rfl⟩
        exact .sum beyond
    | sub =>
        rcases fails with ⟨⟨⟩, -⟩ | ⟨_, ⟨⟩, beyond, rfl⟩
        exact .difference beyond
    | mul =>
        rcases fails with ⟨⟨⟩, -⟩ | ⟨_, ⟨⟩, beyond, rfl⟩
        exact .product beyond
    | div =>
        by_cases zero : right.toInt = 0
        · simp only [exactValue?, if_pos zero] at fails
          rcases fails with ⟨-, rfl⟩ | ⟨_, ⟨⟩, -⟩
          exact .zeroDivisor zero
        · simp only [exactValue?, if_neg zero] at fails
          rcases fails with ⟨⟨⟩, -⟩ | ⟨_, ⟨⟩, beyond, rfl⟩
          exact .quotient zero beyond
    | rem => exact absurd rfl other
    | shiftLeft =>
        simp only [exactValue?, if_neg (not_lt.mpr (count rfl))] at fails
        rcases fails with ⟨⟨⟩, -⟩ | ⟨_, ⟨⟩, beyond, rfl⟩
        exact .shifted (count rfl) beyond
    | bitAnd | bitOr | bitXor | bitClear | shiftRight =>
        -- Their results are words, and so are the exact ones.
        have agrees := @exactValue?_of_onIntegers _ left right _ count rfl
        rw [agrees] at fails
        rcases fails with ⟨⟨⟩, -⟩ | ⟨_, ⟨⟩, beyond, -⟩
        exact absurd (Int128.inRange_toInt _) beyond

namespace Constant

theorem expression_eq (op : BinaryOp) (left right : Constant) :
    expression op left right =
      left.text ++ (" " ++ op.token ++ " ") ++ right.text := by
  simp only [expression, String.append_assoc]

theorem foldIntegers_eq_error_iff {op : BinaryOp} (other : op ≠ .rem)
    (count : op.isShift = true → 0 ≤ right.toInt) {failure : FoldFailure} :
    foldIntegers op ⟨leftText, .integer left⟩ ⟨rightText, .integer right⟩ =
        .error failure ↔
      op.Fails leftText rightText left.toInt right.toInt failure := by
  have words := @BinaryOp.onIntegers_eq_inWord op left right count
    fun remainder => absurd remainder other
  simp only [BinaryOp.fails_iff_of_count other count, foldIntegers, toInt128,
    words, expression_eq]
  cases op.exactValue? left.toInt right.toInt with
  | none => simp [BinaryOp.inWord, eq_comm]
  | some value =>
      by_cases range : Int128.InRange value
      · simp [BinaryOp.inWord, Int128.ofInt?, range, BinaryOp.held]
      · simp [BinaryOp.inWord, Int128.ofInt?, range, BinaryOp.held, eq_comm]

/-- Folding fails as its operator does. -/
theorem fold?_eq_error_iff {op : BinaryOp} (other : op ≠ .rem)
    {failure : FoldFailure} :
    fold? op ⟨leftText, .integer left⟩ ⟨rightText, .integer right⟩ =
        some (.error failure) ↔
      op.Fails leftText rightText left.toInt right.toInt failure := by
  rw [fold?_integers, Option.some.injEq]
  by_cases badCount : op.isShift = true ∧ right.toInt < 0
  · rw [if_pos badCount]
    rcases badCount with ⟨shift, negative⟩
    constructor
    · rintro ⟨⟩
      cases op <;> cases shift
      · exact .shiftLeftCount negative
      · exact .shiftRightCount negative
    · intro fails
      cases fails <;> cases shift
      · rfl
      · next count _ => exact absurd negative (not_lt.mpr count)
      · rfl
  · rw [if_neg badCount]
    apply foldIntegers_eq_error_iff other
    intro shift
    exact not_lt.mp fun negative => badCount ⟨shift, negative⟩

theorem negate_eq_error_iff {text : String} {operand : Int128}
    {failure : FoldFailure} :
    negate ⟨text, .integer operand⟩ = .error failure ↔
      UnaryOp.Fails text operand.toInt .minus failure := by
  simp only [negate, isExactInteger, isIntegral, isFloating, toInt128,
    Int128.neg?, Bool.not_false, Bool.and_true, if_true]
  by_cases range : Int128.InRange (-operand.toInt)
  · constructor
    · simp [Int128.ofInt?, range]
    · rintro ⟨beyond⟩
      exact absurd range beyond
  · rw [Int128.ofInt?_eq_none_iff.mpr range]
    constructor
    · rintro ⟨⟩
      exact .negation range
    · rintro ⟨-⟩
      rfl

end Constant

end

/-! ## What the checker reports -/

namespace Checker

/--
An operation of the checker fails exactly as stated.  A failure makes its type
unknown and is the one diagnostic that it adds, at its place.  If there is no
failure, its type is the constant of the exact value and it adds none.
-/
structure FailsExactly (checker : Checker) (span : Span)
    (fails : FoldFailure → Prop) (expected? : Option Int)
    (outcome : Ty × Checker) : Prop where
  reported :
    ∀ failure,
      fails failure ↔
        outcome.1 = Ty.unknown ∧
          outcome.2.diagnostics =
            checker.diagnostics ++ [⟨.folding failure, span⟩]
  folded :
    (∀ failure, ¬ fails failure) →
      (∃ text value,
          outcome.1.kind = .untyped ⟨text, .integer value⟩ ∧
            expected? = some value.toInt) ∧
        outcome.2.diagnostics = checker.diagnostics

namespace FailsExactly

variable {checker : Checker} {span : Span} {fails : FoldFailure → Prop}

theorem of_constant {outcome : Ty × Checker} {text : String} {value : Int128}
    (never : ∀ failure, ¬ fails failure)
    (integer : outcome.1.kind = .untyped ⟨text, .integer value⟩)
    (silent : outcome.2.diagnostics = checker.diagnostics) :
    checker.FailsExactly span fails (some value.toInt) outcome where
  reported := by
    intro failure
    constructor
    · intro failed
      exact absurd failed (never failure)
    · rintro ⟨unknown, -⟩
      rw [unknown] at integer
      cases integer
  folded := fun _ => ⟨⟨text, value, integer, rfl⟩, silent⟩

theorem of_failure {failure : FoldFailure} (expected? : Option Int)
    (only : ∀ other, fails other ↔ other = failure) :
    checker.FailsExactly span fails expected?
      (checker.conclude span (.ofFold (.error failure))) where
  reported := by
    intro other
    have diagnostics :
        (checker.conclude span (.ofFold (.error failure))).2.diagnostics =
          checker.diagnostics ++ [⟨.folding failure, span⟩] :=
      rfl
    rw [only, diagnostics]
    constructor
    · rintro rfl
      exact ⟨rfl, rfl⟩
    · rintro ⟨-, same⟩
      cases List.append_cancel_left same
      rfl
  folded := fun never => absurd ((only failure).mpr rfl) (never failure)

theorem of_fold {folded : Except FoldFailure Constant} {expected? : Option Int}
    (failures : ∀ failure, folded = .error failure ↔ fails failure)
    (integers :
      ∀ constant, folded = .ok constant →
        ∃ value, constant = .ofInt128 value ∧ expected? = some value.toInt) :
    checker.FailsExactly span fails expected?
      (checker.conclude span (.ofFold folded)) := by
  cases folded with
  | ok constant =>
      rcases integers constant rfl with ⟨value, rfl, rfl⟩
      apply of_constant
      · intro failure failed
        cases (failures failure).mpr failed
      · exact conclude_constant rfl checker span
      · rfl
  | error failure =>
      apply of_failure
      intro other
      rw [← failures, Except.error.injEq, eq_comm]

end FailsExactly

variable {checker : Checker} {span : Span} {left right operand : Ty}

theorem binary_failsExactly {op : BinaryOp} (other : op ≠ .rem)
    {leftText rightText : String} {leftValue rightValue : Int128}
    (leftInteger : left.kind = .untyped ⟨leftText, .integer leftValue⟩)
    (rightInteger : right.kind = .untyped ⟨rightText, .integer rightValue⟩) :
    checker.FailsExactly span
      (op.Fails leftText rightText leftValue.toInt rightValue.toInt)
      (op.exactValue? leftValue.toInt rightValue.toInt)
      (checker.binary span op left right) := by
  obtain ⟨folded, fold⟩ :
      ∃ folded,
        Constant.fold? op ⟨leftText, .integer leftValue⟩
          ⟨rightText, .integer rightValue⟩ = some folded :=
    ⟨_, Constant.fold?_integers op _ _ _ _⟩
  rw [binary_eq_conclude leftInteger rightInteger fold]
  apply FailsExactly.of_fold
  · intro failure
    rw [← Constant.fold?_eq_error_iff other, fold, Option.some.injEq]
  · rintro constant rfl
    exact Constant.exactValue?_of_fold? fold

/-- The verdicts of arithmetic operators on a constant of integer form. -/
theorem arithmetic_check_cases {op : UnaryOp}
    (arithmetic : op.isArithmetic = true)
    {text : String} {value : Int128}
    (integer : operand.kind = .untyped ⟨text, .integer value⟩)
    (options : Options) :
    op = .plus ∧ op.check options operand = .yields operand ∨
      op = .minus ∧
        op.check options operand =
          .ofFold (Constant.negate ⟨text, .integer value⟩) ∨
      op = .bitNot ∧
        op.check options operand =
          .ofFold (.ok (.ofInt128 value.complement)) := by
  cases op with
  | plus =>
      exact Or.inl ⟨rfl, UnaryOp.check_plus_constant integer options⟩
  | minus =>
      exact Or.inr (Or.inl
        ⟨rfl, UnaryOp.check_minus_constant integer options⟩)
  | bitNot =>
      exact Or.inr (Or.inr
        ⟨rfl, UnaryOp.check_bitNot_constant integer options⟩)
  | not | deref | addressOf => cases arithmetic

theorem unary_failsExactly {op : UnaryOp} (arithmetic : op.isArithmetic = true)
    {text : String} {value : Int128}
    (integer : operand.kind = .untyped ⟨text, .integer value⟩) :
    checker.FailsExactly span (op.Fails text value.toInt)
      (op.exactValue? value.toInt) (checker.unary span op operand) := by
  rw [unary]
  rcases arithmetic_check_cases arithmetic integer checker.options with
    ⟨rfl, verdict⟩ | ⟨rfl, verdict⟩ | ⟨rfl, verdict⟩
  · rw [verdict]
    exact .of_constant (by rintro failure ⟨⟩) integer rfl
  · rw [verdict]
    apply FailsExactly.of_fold
    · intro failure
      exact Constant.negate_eq_error_iff
    · intro constant negated
      rcases Constant.negate_integer negated with ⟨result, rfl, agrees⟩
      exact ⟨result, rfl, congrArg some agrees.symm⟩
  · rw [verdict, UnaryOp.exactValue?, ← Int128.toInt_complement]
    exact .of_constant (by rintro failure ⟨⟩) rfl rfl

/--
Folding fails where it must and nowhere else.  Every operator on constants of
integer form, the remainder apart, and every arithmetic operator on one such
constant fails exactly as it does over the unbounded integers, where a result is
refused only if 128 bits cannot hold it.  In particular a zero can be shifted to
the left by any count that is not negative.
-/
theorem folding_fails_exactly (checker : Checker) (span : Span) :
    (∀ (op : BinaryOp) (left right : Ty) (leftText rightText : String)
        (leftValue rightValue : Int128),
        op ≠ .rem →
        left.kind = .untyped ⟨leftText, .integer leftValue⟩ →
        right.kind = .untyped ⟨rightText, .integer rightValue⟩ →
        checker.FailsExactly span
          (op.Fails leftText rightText leftValue.toInt rightValue.toInt)
          (op.exactValue? leftValue.toInt rightValue.toInt)
          (checker.binary span op left right)) ∧
      (∀ (op : UnaryOp) (operand : Ty) (text : String) (value : Int128),
        op.isArithmetic = true →
        operand.kind = .untyped ⟨text, .integer value⟩ →
        checker.FailsExactly span (op.Fails text value.toInt)
          (op.exactValue? value.toInt) (checker.unary span op operand)) ∧
      ∀ (leftText rightText : String) (count : Int) (failure : FoldFailure),
        0 ≤ count →
        ¬ BinaryOp.Fails leftText rightText 0 count .shiftLeft failure := by
  refine ⟨?_, ?_, ?_⟩
  · intro op left right leftText rightText leftValue rightValue other
    exact binary_failsExactly other
  · intro op operand text value arithmetic
    exact unary_failsExactly arithmetic
  · rintro leftText rightText count failure nonnegative fails
    cases fails with
    | shiftLeftCount negative => omega
    | shifted _ beyond =>
        rw [zero_mul] at beyond
        exact beyond (by decide)

/-- The type of a constant that was written as the given text. -/
def written (id : Nat) (text : String) (value : BitVec 128) : Ty :=
  ⟨id, none, .untyped ⟨text, .integer ⟨value⟩⟩⟩

theorem folding_fails_exactly_shifts :
    let checker := initial .standard
    let overflow := FoldFailure.overflow "1 << 127"
    BinaryOp.Fails "1" "127" 1 127 .shiftLeft overflow ∧
      (checker.binary .unplaced .shiftLeft (written 6 "1" 1)
          (written 7 "127" 127)).1 = Ty.unknown ∧
      (checker.binary .unplaced .shiftLeft (written 6 "1" 1)
          (written 7 "127" 127)).2.diagnostics =
        [⟨.folding overflow, .unplaced⟩] ∧
      ∃ text value,
        (checker.binary .unplaced .shiftLeft (written 6 "-1" (-1))
            (written 7 "127" 127)).1.kind =
          .untyped ⟨text, .integer value⟩ ∧
        value.toInt = -2 ^ 127 := by
  intro checker overflow
  have exactly := (folding_fails_exactly checker .unplaced).1 .shiftLeft
  have one := exactly (written 6 "1" 1) (written 7 "127" 127) _ _ _ _
    (by decide) rfl rfl
  have minusOne := exactly (written 6 "-1" (-1)) (written 7 "127" 127) _ _ _ _
    (by decide) rfl rfl
  have fails : BinaryOp.Fails "1" "127" 1 127 .shiftLeft overflow :=
    .shifted (by decide) (by decide)
  have never (failure : FoldFailure) :
      ¬ BinaryOp.Fails "-1" "127" (-1) 127 .shiftLeft failure := by
    rintro (_ | _)
    · omega
    · next beyond => exact beyond (by decide)
  refine ⟨fails, ((one.reported _).mp fails).1, ((one.reported _).mp fails).2,
    ?_⟩
  rcases (minusOne.folded never).1 with ⟨text, value, kind, agrees⟩
  exact ⟨text, value, kind, (Option.some.inj agrees).symm⟩

/-! ## Remainders -/

/--
The remainder of constants of integer form folds whenever the divisor is not
zero, the least word divided by minus one apart.  Nothing is reported, and the
constant is the exact remainder: what the quotient rounded toward zero leaves of
the dividend, smaller than the divisor and of the sign of the dividend.
-/
theorem remainder_folds (checker : Checker) (span : Span)
    {leftText rightText : String} {leftValue rightValue : Int128}
    (leftInteger : left.kind = .untyped ⟨leftText, .integer leftValue⟩)
    (rightInteger : right.kind = .untyped ⟨rightText, .integer rightValue⟩)
    (nonzero : rightValue.toInt ≠ 0)
    (regular :
      ¬ (leftValue.toInt = Int128.least ∧ rightValue.toInt = -1)) :
    (checker.binary span .rem left right).2.diagnostics =
        checker.diagnostics ∧
      ∃ value : Int128,
        (checker.binary span .rem left right).1.kind =
            .untyped (.ofInt128 value) ∧
          value.toInt =
            leftValue.toInt -
              rightValue.toInt * leftValue.toInt.tdiv rightValue.toInt ∧
          |value.toInt| < |rightValue.toInt| ∧
          (value.toInt = 0 ∨ value.toInt.sign = leftValue.toInt.sign) := by
  rcases leftValue.exists_toInt_eq_tmod nonzero with ⟨value, remainder⟩
  have words :
      BinaryOp.rem.onIntegers leftValue rightValue = .ok value := by
    rw [BinaryOp.onIntegers_eq_inWord (by simp [BinaryOp.isShift])
      (fun _ => regular), BinaryOp.exactValue?, if_neg nonzero, ← remainder,
      BinaryOp.inWord_toInt]
  have fold :
      Constant.fold? .rem ⟨leftText, .integer leftValue⟩
          ⟨rightText, .integer rightValue⟩ =
        some (.ok (.ofInt128 value)) := by
    simp only [Constant.fold?_integers, BinaryOp.isShift,
      Constant.foldIntegers, Constant.toInt128, words, Bool.false_eq_true,
      false_and, if_false]
  rw [binary_eq_conclude leftInteger rightInteger fold]
  refine ⟨rfl, value, rfl, ?_, ?_, ?_⟩
  · rw [remainder, Int.tmod_def]
  · rw [remainder, Int.abs_eq_natAbs, Int.abs_eq_natAbs, Int.natAbs_tmod]
    exact_mod_cast Nat.mod_lt _ (Int.natAbs_pos.mpr nonzero)
  · rw [remainder, Int.sign_tmod]
    by_cases divides : rightValue.toInt ∣ leftValue.toInt
    · exact Or.inl (Int.tmod_eq_zero_of_dvd divides)
    · exact Or.inr (if_neg divides)

/-- The type of the least word as a constant. -/
def leastWord : Ty :=
  written 6 "-170141183460469231731687303715884105728" (BitVec.intMin 128)

theorem remainder_folds_leastWord :
    let outcome :=
      (initial .standard).binary .unplaced .rem leastWord (written 7 "7" 7)
    outcome.2.diagnostics = [] ∧
      ∃ value : Int128,
        outcome.1.kind = .untyped (.ofInt128 value) ∧ value.toInt = -2 := by
  have folds := @remainder_folds leastWord (written 7 "7" 7)
    (initial .standard) .unplaced _ _ _ _ rfl rfl (by decide) (by decide)
  rcases folds with ⟨silent, value, kind, remainder, -⟩
  exact ⟨silent, value, kind, remainder.trans (by decide)⟩

/-- The remainder of the least word by minus one is zero, but does not fold. -/
theorem remainder_of_leastWord_refused :
    let outcome :=
      (initial .standard).binary .unplaced .rem leastWord (written 7 "-1" (-1))
    Int128.least.tmod (-1) = 0 ∧
      outcome.1 = Ty.unknown ∧
      outcome.2.diagnostics =
        [⟨.folding
            (.overflow "-170141183460469231731687303715884105728 % -1"),
          .unplaced⟩] := by
  exact ⟨by decide, rfl, rfl⟩

end Checker

end TypeRules
