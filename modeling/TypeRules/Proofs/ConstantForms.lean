import TypeRules.Proofs.ExactFolding
import TypeRules.Proofs.OperatorOptions

/-!
# The form of a computed constant

A constant has integer or floating form whatever its value is, so that `2.0` is
not the constant `2`.  Folding asks three different things of its operands:
whether they are integral, whether they have floating form, and whether they are
integral and have no floating form.  An integral double passes the first test
and fails the last.

For all that, the form of an expression can be read off its leaves and its
operators.  `Expression.form` does so without looking at a single value.
-/

namespace TypeRules

/-! ## Forms -/

/-- The two forms that a constant can have. -/
inductive Constant.Form where
  | integer
  | floating
  deriving DecidableEq

/-- The form of a constant. -/
def Constant.form (constant : Constant) : Constant.Form :=
  match constant.value with
  | .integer _ => .integer
  | .floating _ => .floating

/-- The form that an operator gives to operands of the given forms. -/
def BinaryOp.form (op : BinaryOp) (left right : Constant.Form) :
    Constant.Form :=
  match op with
  | .add | .sub | .mul | .div =>
      if left = .integer ∧ right = .integer then .integer else .floating
  | .rem | .bitAnd | .bitOr | .bitXor | .bitClear | .shiftLeft
  | .shiftRight => .integer

/-- The form that an operator gives to an operand of the given form. -/
def UnaryOp.form (op : UnaryOp) (operand : Constant.Form) : Constant.Form :=
  match op with
  | .bitNot => .integer
  | .plus | .minus | .not | .deref | .addressOf => operand

namespace Expression

/-- The operands are constants of either form, the operators arithmetic. -/
def OverConstants : Expression → Prop
  | .leaf type => ∃ constant, type.kind = .untyped constant
  | .unary _ op operand => op.isArithmetic = true ∧ operand.OverConstants
  | .binary _ _ left right => left.OverConstants ∧ right.OverConstants

/-- The form of an expression over constants. -/
def form : Expression → Constant.Form
  | .leaf type =>
      match type.kind with
      | .untyped constant => constant.form
      | _ => .floating
  | .unary _ op operand => op.form operand.form
  | .binary _ op left right => op.form left.form right.form

end Expression

/-! ## The form of a folded constant -/

namespace Constant

variable {op : BinaryOp} {left right constant folded : Constant}

theorem isExactInteger_iff :
    constant.isExactInteger = true ↔ constant.form = .integer := by
  rcases constant with ⟨text, value | value⟩ <;>
    simp [isExactInteger, isIntegral, isFloating, form]

theorem isFloating_iff :
    constant.isFloating = true ↔ constant.form = .floating := by
  rcases constant with ⟨text, value | value⟩ <;> simp [isFloating, form]

theorem form_of_ofBinary64? {value : Binary64}
    (finite : ofBinary64? value = some constant) :
    constant.form = .floating := by
  unfold ofBinary64? at finite
  split_ifs at finite
  cases finite
  rfl

theorem form_of_foldIntegers (fold : foldIntegers op left right = .ok folded) :
    folded.form = .integer := by
  rcases foldIntegers_ok fold with ⟨value, rfl, -⟩
  rfl

theorem form_of_foldDoubles {operation : Binary64 → Binary64 → Binary64}
    (fold : foldDoubles op operation left right = .ok folded) :
    folded.form = .floating :=
  form_of_ofBinary64? (foldDoubles_ok fold)

theorem form_of_fold? (fold : fold? op left right = some (.ok folded)) :
    folded.form = op.form left.form right.form := by
  have outcome := fold?_ok fold
  simp only [isExactInteger_iff] at outcome
  rcases outcome with
    ⟨integers, noDoubles | operands⟩ | ⟨operation, doubles, defined, mixed⟩
  · have always : op.form left.form right.form = .integer := by
      cases op <;> cases noDoubles <;> rfl
    rw [always]
    exact form_of_foldIntegers integers
  · have joint : op.form .integer .integer = .integer := by
      cases op <;> rfl
    rw [operands.1, operands.2, joint]
    exact form_of_foldIntegers integers
  · have apart : op.form left.form right.form = .floating := by
      cases op <;> cases defined <;> exact if_neg mixed
    rw [apart]
    exact form_of_foldDoubles doubles

theorem form_of_negate (fold : negate constant = .ok folded) :
    folded.form = constant.form := by
  rcases negate_ok fold with ⟨exactOperand, value, rfl, -⟩ | ⟨inexact, finite⟩
  · exact (isExactInteger_iff.mp exactOperand).symm
  · have floating : constant.form = .floating := by
      cases form : constant.form with
      | integer => exact absurd (isExactInteger_iff.mpr form) inexact
      | floating => rfl
    rw [floating]
    exact form_of_ofBinary64? finite

end Constant

/-! ## The form at a node -/

namespace Checker

variable {checker : Checker} {span : Span}

theorem binary_form {op : BinaryOp} {left right : Ty}
    {leftConstant rightConstant : Constant}
    (leftUntyped : left.kind = .untyped leftConstant)
    (rightUntyped : right.kind = .untyped rightConstant)
    (known : (checker.binary span op left right).1.kind ≠ .unknown) :
    ∃ constant,
      (checker.binary span op left right).1.kind = .untyped constant ∧
        constant.form = op.form leftConstant.form rightConstant.form := by
  rw [binary, op.check_constants leftUntyped rightUntyped] at known ⊢
  cases fold : leftConstant.fold? op rightConstant with
  | none =>
      -- An operator that does not fold constants is rejected on them.
      exfalso
      rw [fold] at known
      dsimp only at known
      split_ifs at known <;> exact known rfl
  | some folded =>
      rw [fold] at known
      rcases conclude_ofFold known with ⟨constant, rfl, kind⟩
      exact ⟨constant, kind, Constant.form_of_fold? fold⟩

theorem unary_form {op : UnaryOp} {operand : Ty} {constant : Constant}
    (arithmetic : op.isArithmetic = true)
    (untyped : operand.kind = .untyped constant)
    (known : (checker.unary span op operand).1.kind ≠ .unknown) :
    ∃ result,
      (checker.unary span op operand).1.kind = .untyped result ∧
        result.form = op.form constant.form ∧
        (op = .bitNot → constant.form = .integer) := by
  rw [unary] at known ⊢
  cases op with
  | plus =>
      rw [UnaryOp.check_plus_constant untyped, conclude_type rfl]
      exact ⟨constant, untyped, rfl, by rintro ⟨⟩⟩
  | minus =>
      rw [UnaryOp.check_minus_constant untyped] at known ⊢
      rcases conclude_ofFold known with ⟨negated, fold, kind⟩
      exact ⟨negated, kind, Constant.form_of_negate fold, by rintro ⟨⟩⟩
  | bitNot =>
      rw [UnaryOp.check_bitNot_constant untyped] at known ⊢
      split_ifs at known ⊢ with exactOperand
      · exact ⟨_, conclude_constant rfl checker span, rfl,
          fun _ => Constant.isExactInteger_iff.mp exactOperand⟩
      · exact absurd rfl known
  | not | deref | addressOf => cases arithmetic

/-! ## Whole expressions -/

theorem evaluate_form {expression : Expression}
    (constants : expression.OverConstants)
    (known : (checker.evaluate expression).1.kind ≠ .unknown) :
    ∃ constant,
      (checker.evaluate expression).1.kind = .untyped constant ∧
        constant.form = expression.form := by
  induction expression generalizing checker with
  | leaf type =>
      rcases constants with ⟨constant, untyped⟩
      refine ⟨constant, untyped, ?_⟩
      simp only [Expression.form, untyped]
  | unary span op operand inductionHypothesis =>
      rcases constants with ⟨arithmetic, constants⟩
      have operandKnown :=
        Evaluation.operand_known ⟨checker, .unary span op operand⟩ known
          List.mem_cons_self
      rcases inductionHypothesis constants operandKnown with
        ⟨constant, untyped, form⟩
      rcases unary_form arithmetic untyped known with ⟨result, kind, step, -⟩
      refine ⟨result, kind, ?_⟩
      rw [step, form, Expression.form]
  | binary span op left right leftIH rightIH =>
      rcases constants with ⟨leftConstants, rightConstants⟩
      have operandsKnown :=
        @Evaluation.operand_known ⟨checker, .binary span op left right⟩
      have leftKnown := operandsKnown known List.mem_cons_self
      have rightKnown :=
        operandsKnown known (List.mem_cons_of_mem _ List.mem_cons_self)
      rcases leftIH leftConstants leftKnown with
        ⟨leftConstant, leftUntyped, leftForm⟩
      rcases rightIH rightConstants rightKnown with
        ⟨rightConstant, rightUntyped, rightForm⟩
      rcases binary_form leftUntyped rightUntyped known with
        ⟨constant, kind, step⟩
      refine ⟨constant, kind, ?_⟩
      rw [step, leftForm, rightForm, Expression.form]

/--
If an expression over constants comes out as a constant, then that has the form
of the expression, whatever the options are.  It is an exact integer just if
the form is integer, and possibly a double just if the form is floating.  The
operand of a bitwise complement that comes out at all has integer form.
-/
theorem evaluate_keeps_form (checker : Checker) (expression : Expression)
    (constants : expression.OverConstants) (constant : Constant)
    (untyped : (checker.evaluate expression).1.kind = .untyped constant) :
    constant.form = expression.form ∧
      (constant.isExactInteger = true ↔ constant.form = .integer) ∧
      (constant.isFloating = true ↔ constant.form = .floating) ∧
      ∀ span operand, expression = .unary span .bitNot operand →
        operand.form = .integer ∧
          ∃ inner, (checker.evaluate operand).1.kind = .untyped inner ∧
            inner.form = .integer := by
  have known : (checker.evaluate expression).1.kind ≠ .unknown := by
    rw [untyped]
    rintro ⟨⟩
  refine ⟨?_, Constant.isExactInteger_iff, Constant.isFloating_iff, ?_⟩
  · rcases evaluate_form constants known with ⟨same, kind, form⟩
    cases untyped.symm.trans kind
    exact form
  · rintro span operand rfl
    have operandKnown :=
      Evaluation.operand_known ⟨checker, .unary span .bitNot operand⟩ known
        List.mem_cons_self
    rcases evaluate_form constants.2 operandKnown with ⟨inner, kind, form⟩
    rcases unary_form rfl kind known with ⟨-, -, -, complement⟩
    have integer := complement rfl
    exact ⟨form ▸ integer, inner, kind, integer⟩

end Checker

/-- An expression that is nothing but a constant of floating form. -/
def Expression.double (text : String) (bits : UInt64) : Expression :=
  .leaf ⟨6, none, .untyped ⟨text, .floating ⟨bits⟩⟩⟩

/-- The expression `^(2.0 << 3)`. -/
def Expression.shiftedDouble : Expression :=
  .unary .unplaced .bitNot
    (.binary .unplaced .shiftLeft
      (.double "2.0" 0x4000000000000000) (.literal "3" 3))

/-- The expression `^(2.0 << 3) * 0.5`. -/
def Expression.halvedShift : Expression :=
  .binary .unplaced .mul .shiftedDouble (.double "0.5" 0x3fe0000000000000)

theorem Checker.evaluate_keeps_form_halvedShift :
    Expression.halvedShift.OverConstants ∧
      ∃ shifted halved,
        ((initial .standard).evaluate .shiftedDouble).1.kind =
            .untyped shifted ∧
          shifted.form = .integer ∧ shifted.isExactInteger = true ∧
          ((initial .standard).evaluate .halvedShift).1.kind =
            .untyped halved ∧
          halved.form = .floating ∧ halved.isFloating = true := by
  have shiftConstants : Expression.shiftedDouble.OverConstants :=
    ⟨rfl, ⟨_, rfl⟩, _, rfl⟩
  have halfConstants : Expression.halvedShift.OverConstants :=
    ⟨shiftConstants, _, rfl⟩
  rcases evaluate_keeps_form (initial .standard) _ shiftConstants _ rfl with
    ⟨integer, exactInteger, -, -⟩
  rcases evaluate_keeps_form (initial .standard) _ halfConstants _ rfl with
    ⟨floating, -, double, -⟩
  exact ⟨halfConstants, _, _, rfl, integer, exactInteger.mpr integer, rfl,
    floating, double.mpr floating⟩

end TypeRules
