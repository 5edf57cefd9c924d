import TypeRules.Proofs.Expressions
import TypeRules.Proofs.WordArithmetic

/-!
# Folding is exact

Constants of integer form are folded over 128 bits.  `Expression.exactValue?` is
what the same expression means over the unbounded integers, with nothing in it
about widths: a quotient is rounded toward zero, a remainder has the sign of
the dividend, the bitwise operators act on endless two's complement, and a
shift multiplies or divides by a power of two.  It has no value where a divisor
is zero or a shift count is negative.

Whenever the checker gives an expression over integer constants a known type,
that type is the constant of the exact value.  No intermediate result can have
wrapped around.
-/

namespace TypeRules

/-! ## Operators on the unbounded integers -/

/-- The operator over the unbounded integers, where it is defined. -/
def BinaryOp.exactValue? (op : BinaryOp) (left right : Int) : Option Int :=
  match op with
  | .add => some (left + right)
  | .sub => some (left - right)
  | .mul => some (left * right)
  | .div => if right = 0 then none else some (left.tdiv right)
  | .rem => if right = 0 then none else some (left.tmod right)
  | .bitAnd => some (left.land right)
  | .bitOr => some (left.lor right)
  | .bitXor => some (left.xor right)
  | .bitClear => some (left.ldiff right)
  | .shiftLeft =>
      if right < 0 then none else some (left * 2 ^ right.toNat)
  | .shiftRight =>
      if right < 0 then none else some (left.fdiv (2 ^ right.toNat))

/-- The operator over the unbounded integers, for those that are arithmetic. -/
def UnaryOp.exactValue? (op : UnaryOp) (operand : Int) : Option Int :=
  match op with
  | .plus => some operand
  | .minus => some (-operand)
  | .bitNot => some operand.lnot
  | .not | .deref | .addressOf => none

theorem BinaryOp.held_eq_ok_iff {held? : Option Int128} {value : Int128} :
    BinaryOp.held held? = .ok value ↔ held? = some value := by
  cases held? <;> simp [BinaryOp.held]

theorem Int128.rem?_eq_some {left right value : Int128}
    (held : left.rem? right = some value) :
    value.toInt = left.toInt.tmod right.toInt := by
  rcases Option.bind_eq_some_iff.mp held with ⟨quotient, -, remainder⟩
  exact ofInt?_eq_some_iff.mp remainder

/-- What 128 bits hold of an operation is its exact value. -/
theorem BinaryOp.exactValue?_of_onIntegers {op : BinaryOp}
    {left right value : Int128}
    (count : op.isShift = true → 0 ≤ right.toInt)
    (defined : op.onIntegers left right = .ok value) :
    op.exactValue? left.toInt right.toInt = some value.toInt := by
  cases op with
  | add =>
      have sum := Int128.ofInt?_eq_some_iff.mp (held_eq_ok_iff.mp defined)
      rw [exactValue?, sum]
  | sub =>
      have difference :=
        Int128.ofInt?_eq_some_iff.mp (held_eq_ok_iff.mp defined)
      rw [exactValue?, difference]
  | mul =>
      have product := Int128.ofInt?_eq_some_iff.mp (held_eq_ok_iff.mp defined)
      rw [exactValue?, product]
  | div =>
      simp only [onIntegers] at defined
      split_ifs at defined with zero
      have quotient := Int128.ofInt?_eq_some_iff.mp (held_eq_ok_iff.mp defined)
      rw [exactValue?, if_neg zero, quotient]
  | rem =>
      simp only [onIntegers] at defined
      split_ifs at defined with zero
      have remainder := Int128.rem?_eq_some (held_eq_ok_iff.mp defined)
      rw [exactValue?, if_neg zero, remainder]
  | bitAnd =>
      cases defined
      rw [exactValue?, Int128.toInt_and]
  | bitOr =>
      cases defined
      rw [exactValue?, Int128.toInt_or]
  | bitXor =>
      cases defined
      rw [exactValue?, Int128.toInt_xor]
  | bitClear =>
      cases defined
      rw [exactValue?, Int128.toInt_andNot]
  | shiftLeft =>
      have shifted :=
        Int128.shiftLeft?_eq_some_iff.mp (held_eq_ok_iff.mp defined)
      rw [exactValue?, if_neg (not_lt.mpr (count rfl)), shifted]
  | shiftRight =>
      cases defined
      rw [exactValue?, if_neg (not_lt.mpr (count rfl)), Int128.toInt_shiftRight,
        Int.fdiv_eq_ediv_of_nonneg _ (by positivity)]

/-! ## Folding constants of integer form -/

namespace Constant

theorem foldIntegers_ok {op : BinaryOp} {left right folded : Constant}
    (fold : foldIntegers op left right = .ok folded) :
    ∃ value,
      folded = ofInt128 value ∧
        op.onIntegers left.toInt128 right.toInt128 = .ok value := by
  unfold foldIntegers at fold
  split at fold
  · next value defined =>
      cases fold
      exact ⟨value, rfl, defined⟩
  · cases fold
  · cases fold

theorem foldDoubles_ok {op : BinaryOp}
    {operation : Binary64 → Binary64 → Binary64}
    {left right folded : Constant}
    (fold : foldDoubles op operation left right = .ok folded) :
    ofBinary64? (operation left.toBinary64 right.toBinary64) = some folded := by
  unfold foldDoubles at fold
  split_ifs at fold
  split at fold
  · next finite =>
      cases fold
      exact finite
  · cases fold

/--
Double precision is for the operators that have it, and only if an operand is
not an exact integer.
-/
theorem fold?_ok {op : BinaryOp} {left right folded : Constant}
    (fold : fold? op left right = some (.ok folded)) :
    foldIntegers op left right = .ok folded ∧
        (op.onDoubles? = none ∨
          left.isExactInteger = true ∧ right.isExactInteger = true) ∨
      ∃ operation, foldDoubles op operation left right = .ok folded ∧
        op.onDoubles? = some operation ∧
        ¬ (left.isExactInteger = true ∧ right.isExactInteger = true) := by
  unfold fold? at fold
  split at fold
  · next operation doubles =>
      simp only [Bool.and_eq_true] at fold
      split_ifs at fold with exactOperands
      · exact Or.inl ⟨Option.some.inj fold, Or.inr exactOperands⟩
      · exact Or.inr ⟨operation, Option.some.inj fold, doubles, exactOperands⟩
  · next noDoubles =>
      split_ifs at fold
      · exact Or.inl ⟨Option.some.inj fold, Or.inl noDoubles⟩
      · cases fold
      · exact Or.inl ⟨Option.some.inj fold, Or.inl noDoubles⟩

theorem negate_ok {constant negated : Constant}
    (fold : negate constant = .ok negated) :
    (constant.isExactInteger = true ∧
        ∃ value,
          negated = ofInt128 value ∧ constant.toInt128.neg? = some value) ∨
      ¬ constant.isExactInteger = true ∧
        ofBinary64? constant.toBinary64.neg = some negated := by
  simp only [negate] at fold
  split at fold
  · next result found =>
      cases fold
      split_ifs at found with exactOperand
      · rcases Option.map_eq_some_iff.mp found with ⟨value, negation, rfl⟩
        exact Or.inl ⟨exactOperand, value, rfl, negation⟩
      · exact Or.inr ⟨exactOperand, found⟩
  · cases fold

/-- Folding always applies to constants of integer form. -/
theorem fold?_integers (op : BinaryOp) (leftText rightText : String)
    (left right : Int128) :
    fold? op ⟨leftText, .integer left⟩ ⟨rightText, .integer right⟩ =
      some
        (if op.isShift = true ∧ right.toInt < 0 then
          .error (.invalidShiftCount rightText)
        else
          foldIntegers op ⟨leftText, .integer left⟩
            ⟨rightText, .integer right⟩) := by
  by_cases negative : right.toInt < 0
  · cases op <;>
      simp [fold?, BinaryOp.onDoubles?, BinaryOp.isShift, isExactInteger,
        isIntegral, isFloating, toInt128, negative, not_le.mpr negative]
  · cases op <;>
      simp [fold?, BinaryOp.onDoubles?, BinaryOp.isShift, isExactInteger,
        isIntegral, isFloating, toInt128, negative, not_lt.mp negative]

theorem exactValue?_of_fold? {op : BinaryOp} {leftText rightText : String}
    {left right : Int128} {folded : Constant}
    (fold :
      fold? op ⟨leftText, .integer left⟩ ⟨rightText, .integer right⟩ =
        some (.ok folded)) :
    ∃ value,
      folded = ofInt128 value ∧
        op.exactValue? left.toInt right.toInt = some value.toInt := by
  rw [fold?_integers, Option.some.injEq] at fold
  split_ifs at fold with badCount
  rcases foldIntegers_ok fold with ⟨value, rfl, defined⟩
  refine ⟨value, rfl, BinaryOp.exactValue?_of_onIntegers ?_ defined⟩
  intro shift
  exact not_lt.mp fun negative => badCount ⟨shift, negative⟩

theorem negate_integer {text : String} {operand : Int128}
    {negated : Constant}
    (fold : negate ⟨text, .integer operand⟩ = .ok negated) :
    ∃ value,
      negated = ofInt128 value ∧ value.toInt = -operand.toInt := by
  rcases negate_ok fold with ⟨-, value, rfl, negation⟩ | ⟨inexact, -⟩
  · exact ⟨value, rfl, Int128.ofInt?_eq_some_iff.mp negation⟩
  · exact absurd rfl inexact

end Constant

/-! ## One operation on constants of integer form -/

theorem Checker.conclude_ofFold {folded : Except FoldFailure Constant}
    {checker : Checker} {span : Span}
    (known :
      (checker.conclude span (.ofFold folded)).1.kind ≠ .unknown) :
    ∃ constant,
      folded = .ok constant ∧
        (checker.conclude span (.ofFold folded)).1.kind =
          .untyped constant := by
  cases folded with
  | ok constant =>
      exact ⟨constant, rfl, Checker.conclude_constant rfl checker span⟩
  | error failure =>
      exfalso
      apply known
      rw [Checker.conclude_type rfl]
      rfl

theorem Checker.binary_eq_conclude {checker : Checker} {span : Span}
    {op : BinaryOp} {left right : Ty} {leftConstant rightConstant : Constant}
    {folded : Except FoldFailure Constant}
    (leftUntyped : left.kind = .untyped leftConstant)
    (rightUntyped : right.kind = .untyped rightConstant)
    (fold : leftConstant.fold? op rightConstant = some folded) :
    checker.binary span op left right =
      checker.conclude span (.ofFold folded) := by
  simp only [Checker.binary, BinaryOp.check, leftUntyped, rightUntyped,
    Kind.isUnknown, Kind.constant?, Bool.or_false, Bool.false_eq_true,
    if_false, fold]

theorem Checker.binary_integers {checker : Checker} {span : Span}
    {op : BinaryOp} {left right : Ty} {leftText rightText : String}
    {leftValue rightValue : Int128}
    (leftInteger : left.kind = .untyped ⟨leftText, .integer leftValue⟩)
    (rightInteger : right.kind = .untyped ⟨rightText, .integer rightValue⟩)
    (known : (checker.binary span op left right).1.kind ≠ .unknown) :
    ∃ value,
      (checker.binary span op left right).1.kind =
          .untyped (.ofInt128 value) ∧
        op.exactValue? leftValue.toInt rightValue.toInt = some value.toInt := by
  obtain ⟨folded, fold⟩ :
      ∃ folded,
        Constant.fold? op ⟨leftText, .integer leftValue⟩
          ⟨rightText, .integer rightValue⟩ = some folded :=
    ⟨_, Constant.fold?_integers op _ _ _ _⟩
  rw [Checker.binary_eq_conclude leftInteger rightInteger fold] at known ⊢
  rcases Checker.conclude_ofFold known with ⟨constant, rfl, kind⟩
  rcases Constant.exactValue?_of_fold? fold with ⟨value, rfl, agrees⟩
  exact ⟨value, kind, agrees⟩

section Untyped

variable {operand : Ty} {constant : Constant}
  (untyped : operand.kind = .untyped constant) (options : Options)

include untyped

theorem UnaryOp.check_plus_constant :
    plus.check options operand = .yields operand := by
  simp only [check, checkKnown, untyped, Kind.isUnknown, Bool.false_eq_true,
    if_false]

theorem UnaryOp.check_minus_constant :
    minus.check options operand = .ofFold constant.negate := by
  simp only [check, checkKnown, untyped, Kind.isUnknown, Bool.false_eq_true,
    if_false]

theorem UnaryOp.check_bitNot_constant :
    bitNot.check options operand =
      if constant.isExactInteger then
        ⟨.constant (.ofInt128 constant.toInt128.complement), []⟩
      else .rejected [.operatorOnType bitNot.token operand] := by
  simp only [check, checkKnown, untyped, Kind.isUnknown, Bool.false_eq_true,
    if_false]

end Untyped

/-- The unary operators that are arithmetic on integers. -/
def UnaryOp.isArithmetic : UnaryOp → Bool
  | .plus | .minus | .bitNot => true
  | .not | .deref | .addressOf => false

theorem Checker.unary_integer {checker : Checker} {span : Span}
    {op : UnaryOp} {operand : Ty} {text : String} {operandValue : Int128}
    (arithmetic : op.isArithmetic = true)
    (integer : operand.kind = .untyped ⟨text, .integer operandValue⟩)
    (known : (checker.unary span op operand).1.kind ≠ .unknown) :
    ∃ result value,
      (checker.unary span op operand).1.kind =
          .untyped ⟨result, .integer value⟩ ∧
        op.exactValue? operandValue.toInt = some value.toInt ∧
        (op ≠ .plus → result = value.text) := by
  rw [Checker.unary] at known ⊢
  cases op with
  | plus =>
      rw [UnaryOp.check_plus_constant integer, Checker.conclude_type rfl]
      exact ⟨text, operandValue, integer, rfl, fun other => absurd rfl other⟩
  | minus =>
      rw [UnaryOp.check_minus_constant integer] at known ⊢
      rcases Checker.conclude_ofFold known with ⟨constant, negated, kind⟩
      rcases Constant.negate_integer negated with ⟨value, rfl, agrees⟩
      refine ⟨value.text, value, kind, ?_, fun _ => rfl⟩
      rw [UnaryOp.exactValue?, agrees]
  | bitNot =>
      rw [UnaryOp.check_bitNot_constant integer]
      refine ⟨operandValue.complement.text, operandValue.complement,
        Checker.conclude_constant rfl checker span, ?_, fun _ => rfl⟩
      rw [UnaryOp.exactValue?, Int128.toInt_complement]
  | not => cases arithmetic
  | deref => cases arithmetic
  | addressOf => cases arithmetic

/-! ## Whole expressions -/

namespace Expression

/-- The operands are constants of integer form, the operators arithmetic. -/
def OverIntegers : Expression → Prop
  | .leaf type =>
      ∃ text value, type.kind = .untyped ⟨text, .integer value⟩
  | .unary _ op operand => op.isArithmetic = true ∧ operand.OverIntegers
  | .binary _ _ left right => left.OverIntegers ∧ right.OverIntegers

/-- The value of an expression over the unbounded integers. -/
def exactValue? : Expression → Option Int
  | .leaf type =>
      match type.kind with
      | .untyped ⟨_, .integer value⟩ => some value.toInt
      | _ => none
  | .unary _ op operand => operand.exactValue?.bind op.exactValue?
  | .binary _ op left right =>
      left.exactValue?.bind fun leftValue =>
        right.exactValue?.bind fun rightValue =>
          op.exactValue? leftValue rightValue

/-- Whether the constant of an expression is a new one. -/
def isComputed : Expression → Bool
  | .leaf _ | .unary _ .plus _ => false
  | .unary _ _ _ | .binary _ _ _ _ => true

end Expression

theorem Checker.evaluate_value {checker : Checker} {expression : Expression}
    (integers : expression.OverIntegers)
    (known : (checker.evaluate expression).1.kind ≠ .unknown) :
    ∃ text value,
      (checker.evaluate expression).1.kind =
          .untyped ⟨text, .integer value⟩ ∧
        expression.exactValue? = some value.toInt ∧
        (expression.isComputed = true → text = value.text) := by
  induction expression generalizing checker with
  | leaf type =>
      rcases integers with ⟨text, value, kind⟩
      refine ⟨text, value, kind, ?_, fun computed => by cases computed⟩
      simp only [Expression.exactValue?, kind]
  | unary span op operand inductionHypothesis =>
      rcases integers with ⟨arithmetic, integers⟩
      have operandKnown :=
        Evaluation.operand_known ⟨checker, .unary span op operand⟩ known
          List.mem_cons_self
      rcases inductionHypothesis integers operandKnown with
        ⟨text, value, kind, agrees, -⟩
      rcases Checker.unary_integer arithmetic kind known with
        ⟨result, computed, resultKind, operation, rendered⟩
      refine ⟨result, computed, resultKind, ?_, ?_⟩
      · rw [Expression.exactValue?, agrees]
        exact operation
      · intro isComputed
        apply rendered
        rintro rfl
        cases isComputed
  | binary span op left right leftIH rightIH =>
      rcases integers with ⟨leftIntegers, rightIntegers⟩
      have operandsKnown :=
        @Evaluation.operand_known ⟨checker, .binary span op left right⟩
      have leftKnown := operandsKnown known List.mem_cons_self
      have rightKnown :=
        operandsKnown known (List.mem_cons_of_mem _ List.mem_cons_self)
      rcases leftIH leftIntegers leftKnown with
        ⟨leftText, leftValue, leftKind, leftExact, -⟩
      rcases rightIH rightIntegers rightKnown with
        ⟨rightText, rightValue, rightKind, rightExact, -⟩
      rcases Checker.binary_integers leftKind rightKind known with
        ⟨value, kind, operation⟩
      refine ⟨value.text, value, kind, ?_, fun _ => rfl⟩
      rw [Expression.exactValue?, leftExact, rightExact]
      exact operation

/--
Folding whole expressions is exact.  If an expression over constants of integer
form has a known type, then evaluating it reports nothing, and its type is the
constant of integer form whose value is that of the expression over the
unbounded integers.  A constant that some operator has made is spelled as the
decimal number it is.
-/
theorem evaluate_exact (checker : Checker) (expression : Expression)
    (integers : expression.OverIntegers)
    (known : (checker.evaluate expression).1.kind ≠ .unknown) :
    (checker.evaluate expression).2.diagnostics = checker.diagnostics ∧
      ∃ text value,
        (checker.evaluate expression).1.kind =
            .untyped ⟨text, .integer value⟩ ∧
          expression.exactValue? = some value.toInt ∧
          (expression.isComputed = true → text = toString value.toInt) :=
  ⟨Evaluation.diagnostics_of_known checker expression known,
    Checker.evaluate_value integers known⟩

/-- An expression that is nothing but a constant of integer form. -/
def Expression.literal (text : String) (value : BitVec 128) : Expression :=
  .leaf ⟨6, none, .untyped ⟨text, .integer ⟨value⟩⟩⟩

/-- The expression `(-7 / 0x2 << 100) | (-1000 >> 300 & 5)`. -/
def Expression.farShifts : Expression :=
  .binary .unplaced .bitOr
    (.binary .unplaced .shiftLeft
      (.binary .unplaced .div
        (.unary .unplaced .minus (.literal "7" 7)) (.literal "0x2" 2))
      (.literal "100" 100))
    (.binary .unplaced .bitAnd
      (.binary .unplaced .shiftRight
        (.literal "-1000" (-1000)) (.literal "300" 300))
      (.literal "5" 5))

theorem evaluate_exact_farShifts :
    Expression.farShifts.OverIntegers ∧
      ∃ text value,
        ((Checker.initial .standard).evaluate .farShifts).1.kind =
            .untyped ⟨text, .integer value⟩ ∧
          value.toInt = -3 * 2 ^ 100 + 5 ∧
          Expression.farShifts.exactValue? = some value.toInt ∧
          text = toString value.toInt := by
  have leaf (text : String) (value : BitVec 128) :
      (Expression.literal text value).OverIntegers :=
    ⟨text, ⟨value⟩, rfl⟩
  have integers : Expression.farShifts.OverIntegers :=
    ⟨⟨⟨⟨rfl, leaf _ _⟩, leaf _ _⟩, leaf _ _⟩, ⟨leaf _ _, leaf _ _⟩, leaf _ _⟩
  have known :
      ((Checker.initial .standard).evaluate .farShifts).1.kind ≠ .unknown :=
    Kind.isUnknown_iff.not.mp (by decide)
  rcases evaluate_exact (.initial .standard) .farShifts integers known with
    ⟨-, text, value, kind, agrees, rendered⟩
  have sum : Expression.farShifts.exactValue? = some (-3 * 2 ^ 100 + 5) := by
    decide +kernel
  have value : value.toInt = -3 * 2 ^ 100 + 5 :=
    Option.some.inj (agrees.symm.trans sum)
  exact ⟨integers, text, _, kind, value, agrees, rendered rfl⟩

end TypeRules
