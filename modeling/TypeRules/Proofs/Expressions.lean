import Mathlib.Logic.Relation
import TypeRules.Proofs.Reporting

/-!
# Expressions of operators

An expression is a tree of operators over operands whose types are given.  It
is evaluated from the leaves up and from left to right, one operation of the
checker for each node.  An `Evaluation` is a node together with the checker
that its evaluation starts from, so that the diagnostics a node adds itself
can be told from those of the nodes below it.

The main result is that errors are neither lost nor multiplied.  A node that
reports something is of unknown type; an unknown type makes every node above
it unknown and silent.
-/

namespace TypeRules

/-- An expression of operators, each node with its place. -/
inductive Expression where
  /-- Something of the given type. -/
  | leaf (type : Ty)
  | unary (span : Span) (op : UnaryOp) (operand : Expression)
  | binary (span : Span) (op : BinaryOp) (left right : Expression)

/-- The type of an expression, its operands checked from left to right. -/
def Checker.evaluate (checker : Checker) : Expression → Ty × Checker
  | .leaf type => (type, checker)
  | .unary span op operand =>
      let (type, checker) := checker.evaluate operand
      checker.unary span op type
  | .binary span op left right =>
      let (leftType, checker) := checker.evaluate left
      let (rightType, checker) := checker.evaluate right
      checker.binary span op leftType rightType

/-- A node of an expression and the checker that it is evaluated from. -/
structure Evaluation where
  /-- The checker before the node and everything below it is evaluated. -/
  checker : Checker
  /-- The expression at the node. -/
  expression : Expression

namespace Evaluation

/-- The type of the node. -/
def type (node : Evaluation) : Ty :=
  (node.checker.evaluate node.expression).1

/-- The checker once the node is evaluated. -/
def final (node : Evaluation) : Checker :=
  (node.checker.evaluate node.expression).2

/-- The operands of the node, each with the checker it is evaluated from. -/
def operands : Evaluation → List Evaluation
  | ⟨_, .leaf _⟩ => []
  | ⟨checker, .unary _ _ operand⟩ => [⟨checker, operand⟩]
  | ⟨checker, .binary _ _ left right⟩ =>
      [⟨checker, left⟩, ⟨final ⟨checker, left⟩, right⟩]

/-- The checker once the operands are evaluated, before the node itself is. -/
def prepared : Evaluation → Checker
  | ⟨checker, .leaf _⟩ => checker
  | ⟨checker, .unary _ _ operand⟩ => final ⟨checker, operand⟩
  | ⟨checker, .binary _ _ left right⟩ =>
      final ⟨final ⟨checker, left⟩, right⟩

/-- The diagnostics that the node adds beyond those of its operands. -/
def added (node : Evaluation) : List Diagnostic :=
  node.final.diagnostics.drop node.prepared.diagnostics.length

/-- One node is an operand of another, or of an operand of it, and so on. -/
def Within : Evaluation → Evaluation → Prop :=
  Relation.TransGen fun inner outer => inner ∈ outer.operands

/-! ## The verdict at a node -/

/-- The place of a node; a leaf needs none. -/
def span : Evaluation → Span
  | ⟨_, .leaf _⟩ => .unplaced
  | ⟨_, .unary span _ _⟩ => span
  | ⟨_, .binary span _ _ _⟩ => span

/-- The verdict that the node comes to on the types of its operands. -/
def verdict : Evaluation → Verdict
  | ⟨_, .leaf type⟩ => .yields type
  | ⟨checker, .unary _ op operand⟩ =>
      op.check (final ⟨checker, operand⟩).options (type ⟨checker, operand⟩)
  | ⟨checker, .binary _ op left right⟩ =>
      let middle := final ⟨checker, left⟩
      op.check (final ⟨middle, right⟩).options
        (type ⟨checker, left⟩) (type ⟨middle, right⟩)

/-- Evaluating a node is evaluating its operands and carrying out a verdict. -/
theorem evaluate_eq_conclude (node : Evaluation) :
    node.checker.evaluate node.expression =
      node.prepared.conclude node.span node.verdict := by
  rcases node with ⟨checker, expression⟩
  cases expression <;> rfl

theorem verdict_honest (node : Evaluation) : node.verdict.Honest := by
  rcases node with ⟨checker, expression⟩
  cases expression with
  | leaf type =>
      have outcome :
          (Verdict.yields type).Outcome checker.options [type] :=
        .yields List.mem_cons_self
      exact outcome.honest
  | unary span op operand => exact (op.check_outcome _ _).honest
  | binary span op left right => exact (op.check_outcome _ _ _).honest

theorem verdict_of_unknown {node operand : Evaluation}
    (member : operand ∈ node.operands)
    (unknown : operand.type.kind = .unknown) :
    node.verdict = .silent := by
  rcases node with ⟨checker, expression⟩
  cases expression with
  | leaf type => simp [operands] at member
  | unary span op inner =>
      rcases List.mem_singleton.mp member with rfl
      exact op.check_of_unknown _ unknown
  | binary span op left right =>
      simp only [operands, List.mem_cons, List.not_mem_nil, or_false] at member
      rcases member with rfl | rfl
      · exact op.check_of_unknown _ (Or.inl unknown)
      · exact op.check_of_unknown _ (Or.inr unknown)

/-! ## What a node adds -/

theorem final_diagnostics_spec (node : Evaluation) :
    node.final.diagnostics = node.prepared.diagnostics ++ node.added ∧
      node.added.length = node.verdict.problems.length := by
  rcases node.prepared.conclude_diagnostics node.span node.verdict with
    ⟨reported, appended, count, -⟩
  have final : node.final.diagnostics =
      node.prepared.diagnostics ++ reported := by
    rw [Evaluation.final, evaluate_eq_conclude, appended]
  have added : node.added = reported := by
    rw [Evaluation.added, final, List.drop_left]
  rw [added]
  exact ⟨final, count⟩

theorem final_diagnostics (node : Evaluation) :
    node.final.diagnostics = node.prepared.diagnostics ++ node.added :=
  node.final_diagnostics_spec.1

theorem length_added (node : Evaluation) :
    node.added.length = node.verdict.problems.length :=
  node.final_diagnostics_spec.2

theorem length_added_le_two (node : Evaluation) : node.added.length ≤ 2 := by
  rw [length_added]
  exact node.verdict_honest.bounded

/-- A node that reports something is of unknown type. -/
theorem unknown_of_added {node : Evaluation} (reports : node.added ≠ []) :
    node.type.kind = .unknown := by
  have problems : node.verdict.problems ≠ [] := by
    intro none
    apply reports
    rw [← List.length_eq_zero_iff, length_added, none, List.length_nil]
  rw [Evaluation.type, evaluate_eq_conclude,
    Checker.conclude_type (node.verdict_honest.unknown problems)]
  rfl

/-- An operand of unknown type makes a node unknown and silent. -/
theorem silent_of_operand_unknown {node operand : Evaluation}
    (member : operand ∈ node.operands)
    (unknown : operand.type.kind = .unknown) :
    node.added = [] ∧ node.type.kind = .unknown := by
  have silent := verdict_of_unknown member unknown
  constructor
  · rw [← List.length_eq_zero_iff, length_added, silent]
    rfl
  · rw [Evaluation.type, evaluate_eq_conclude,
      Checker.conclude_type (congrArg Verdict.result silent)]
    rfl

/-- A node of unknown type makes every node above it unknown and silent. -/
theorem silent_of_within_unknown {inner outer : Evaluation}
    (within : inner.Within outer) (unknown : inner.type.kind = .unknown) :
    outer.added = [] ∧ outer.type.kind = .unknown := by
  induction within with
  | single member => exact silent_of_operand_unknown member unknown
  | tail _ member inductionHypothesis =>
      exact silent_of_operand_unknown member inductionHypothesis.2

/-! ## What an expression adds -/

theorem operand_known (node : Evaluation) {operand : Evaluation}
    (known : node.type.kind ≠ .unknown) (member : operand ∈ node.operands) :
    operand.type.kind ≠ .unknown := by
  intro unknown
  exact known (silent_of_operand_unknown member unknown).2

theorem final_diagnostics_of_known {node : Evaluation}
    (known : node.type.kind ≠ .unknown) :
    node.final.diagnostics = node.prepared.diagnostics := by
  have silent : node.added = [] := by
    by_contra reports
    exact known (unknown_of_added reports)
  rw [final_diagnostics, silent, List.append_nil]

theorem diagnostics_of_known (checker : Checker) (expression : Expression)
    (known : (type ⟨checker, expression⟩).kind ≠ .unknown) :
    (final ⟨checker, expression⟩).diagnostics = checker.diagnostics := by
  induction expression generalizing checker with
  | leaf type => rfl
  | unary span op operand inductionHypothesis =>
      have operandKnown := operand_known _ known (List.mem_singleton_self _)
      calc
        (final ⟨checker, .unary span op operand⟩).diagnostics
        _ = (final ⟨checker, operand⟩).diagnostics :=
          final_diagnostics_of_known known
        _ = checker.diagnostics := inductionHypothesis checker operandKnown
  | binary span op left right leftIH rightIH =>
      have leftKnown := operand_known _ known List.mem_cons_self
      have rightKnown :=
        operand_known _ known (List.mem_cons_of_mem _ List.mem_cons_self)
      calc
        (final ⟨checker, .binary span op left right⟩).diagnostics
        _ = (final ⟨final ⟨checker, left⟩, right⟩).diagnostics :=
          final_diagnostics_of_known known
        _ = (final ⟨checker, left⟩).diagnostics := rightIH _ rightKnown
        _ = checker.diagnostics := leftIH checker leftKnown

/--
Errors are neither swallowed nor do they cascade, at any node of any
expression: a known type means that nothing was reported while the node and
everything below it was evaluated; an operand of unknown type makes the node
unknown and silent, so that no node reports anything above one that did; and a
node only ever appends, at most two diagnostics.
-/
theorem errors_reported_once (node : Evaluation) :
    (node.type.kind ≠ .unknown →
        node.final.diagnostics = node.checker.diagnostics) ∧
      ((∃ operand ∈ node.operands, operand.type.kind = .unknown) →
        node.added = [] ∧ node.type.kind = .unknown) ∧
      (∀ inner : Evaluation, inner.Within node →
        inner.added ≠ [] → node.added = []) ∧
      node.final.diagnostics = node.prepared.diagnostics ++ node.added ∧
      node.added.length ≤ 2 := by
  refine ⟨?_, ?_, ?_, node.final_diagnostics, node.length_added_le_two⟩
  · intro known
    exact diagnostics_of_known node.checker node.expression known
  · rintro ⟨operand, member, unknown⟩
    exact silent_of_operand_unknown member unknown
  · intro inner within reports
    exact (silent_of_within_unknown within (unknown_of_added reports)).1

/--
The sum of a truth value and a string, and a negated truth value, are in turn
added up.
-/
def wrongSum : Evaluation :=
  ⟨.initial .standard,
    .binary .unplaced .add
      (.binary .unplaced .add (.leaf Ty.bool) (.leaf Ty.string))
      (.unary .unplaced .minus (.leaf Ty.bool))⟩

theorem errors_reported_once_wrongSum :
    ∃ sum negation, wrongSum.operands = [sum, negation] ∧
      sum.type.kind = .unknown ∧ sum.added.length = 2 ∧
      sum.final.diagnostics = sum.prepared.diagnostics ++ sum.added ∧
      negation.type.kind = .unknown ∧ negation.added.length = 1 ∧
      wrongSum.added = [] ∧ wrongSum.type.kind = .unknown := by
  let sum : Evaluation :=
    ⟨.initial .standard,
      .binary .unplaced .add (.leaf Ty.bool) (.leaf Ty.string)⟩
  let negation : Evaluation :=
    ⟨sum.final, .unary .unplaced .minus (.leaf Ty.bool)⟩
  have unknown : sum.type.kind = .unknown := rfl
  have silent :=
    (errors_reported_once wrongSum).2.1 ⟨sum, List.mem_cons_self, unknown⟩
  exact ⟨sum, negation, rfl, unknown, rfl,
    (errors_reported_once sum).2.2.2.1, rfl, rfl, silent⟩

end Evaluation

end TypeRules
