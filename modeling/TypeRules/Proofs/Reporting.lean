import TypeRules.Checker
import TypeRules.Proofs.Outcomes

/-!
# What carrying out a verdict reports

A verdict is decided from types and options and then carried out.  The first
section says what carrying it out does to the list of diagnostics: it appends
one diagnostic for each problem, at the place of the operation, and nothing
else.  The second section is about the verdicts of operators.  A verdict with a
problem always yields the unknown type, and an operand of unknown type always
leads to the silent verdict.
-/

namespace TypeRules

/-! ## Diagnostics -/

namespace Checker

theorem report_diagnostics (checker : Checker) (span : Span)
    (problem : Problem Ty) :
    ∃ diagnostic : Diagnostic,
      (checker.report span problem).diagnostics =
          checker.diagnostics ++ [diagnostic] ∧
        diagnostic.span = span :=
  ⟨_, rfl, rfl⟩

/-- Reporting appends one diagnostic for each problem, at the given place. -/
theorem reportAll_diagnostics (checker : Checker) (span : Span)
    (problems : List (Problem Ty)) :
    ∃ added : List Diagnostic,
      (checker.reportAll span problems).diagnostics =
          checker.diagnostics ++ added ∧
        added.length = problems.length ∧
        ∀ diagnostic ∈ added, diagnostic.span = span := by
  induction problems generalizing checker with
  | nil =>
      exact ⟨[], by simp [reportAll]⟩
  | cons problem problems inductionHypothesis =>
      rcases checker.report_diagnostics span problem with
        ⟨first, firstAdded, firstPlaced⟩
      rcases inductionHypothesis (checker.report span problem) with
        ⟨rest, restAdded, restLength, restPlaced⟩
      refine ⟨first :: rest, ?_, ?_, ?_⟩
      · rw [firstAdded, List.append_assoc] at restAdded
        exact restAdded
      · simp [restLength]
      · intro diagnostic member
        rcases List.mem_cons.mp member with rfl | member
        · exact firstPlaced
        · exact restPlaced diagnostic member

@[simp]
theorem realize_diagnostics (checker : Checker) (result : Result) :
    (checker.realize result).2.diagnostics = checker.diagnostics := by
  cases result <;> rfl

/-- Carrying out a verdict appends one diagnostic for each of its problems. -/
theorem conclude_diagnostics (checker : Checker) (span : Span)
    (verdict : Verdict) :
    ∃ added : List Diagnostic,
      (checker.conclude span verdict).2.diagnostics =
          checker.diagnostics ++ added ∧
        added.length = verdict.problems.length ∧
        ∀ diagnostic ∈ added, diagnostic.span = span := by
  rw [conclude, realize_diagnostics]
  exact checker.reportAll_diagnostics span verdict.problems

theorem conclude_type {verdict : Verdict} {type : Ty}
    (settled : verdict.result = .type type)
    (checker : Checker) (span : Span) :
    (checker.conclude span verdict).1 = type := by
  rw [conclude, settled]
  rfl

theorem conclude_constant {verdict : Verdict} {constant : Constant}
    (folded : verdict.result = .constant constant)
    (checker : Checker) (span : Span) :
    (checker.conclude span verdict).1.kind = .untyped constant := by
  rw [conclude, folded]
  rfl

end Checker

/-! ## Verdicts of operators -/

theorem Kind.isUnknown_iff {τ : Type} {kind : Kind τ} :
    kind.isUnknown = true ↔ kind = .unknown := by
  cases kind <;> simp [Kind.isUnknown]

namespace Verdict

/--
A verdict is honest if it yields the unknown type as soon as it has a problem.
It may have up to two problems: the reason why operands do not go together,
and that they do not.
-/
structure Honest (verdict : Verdict) : Prop where
  unknown : verdict.problems ≠ [] → verdict.result = .type Ty.unknown
  bounded : verdict.problems.length ≤ 2

/-- Operators come to honest verdicts. -/
theorem Outcome.honest {options : Options} {operands : List Ty}
    {verdict : Verdict} (outcome : verdict.Outcome options operands) :
    verdict.Honest := by
  cases outcome with
  | yields | base | address | silent =>
      exact ⟨fun problems => absurd rfl problems, Nat.zero_le 2⟩
  | folded result =>
      cases result with
      | ok constant =>
          exact ⟨fun problems => absurd rfl problems, Nat.zero_le 2⟩
      | error failure => exact ⟨fun _ => rfl, Nat.le_succ 1⟩
  | wrong => exact ⟨fun _ => rfl, Nat.le_succ 1⟩
  | mismatch => exact ⟨fun _ => rfl, Nat.le_refl 2⟩

end Verdict

/-- An operand of unknown type silences a binary operator. -/
theorem BinaryOp.check_of_unknown (op : BinaryOp) (options : Options)
    {left right : Ty}
    (unknown : left.kind = .unknown ∨ right.kind = .unknown) :
    op.check options left right = .silent := by
  have either : (left.kind.isUnknown || right.kind.isUnknown) = true := by
    simpa only [Bool.or_eq_true, Kind.isUnknown_iff] using unknown
  rw [check, if_pos either]

theorem UnaryOp.check_of_unknown (op : UnaryOp) (options : Options)
    {operand : Ty} (unknown : operand.kind = .unknown) :
    op.check options operand = .silent := by
  rw [check, if_pos (Kind.isUnknown_iff.mpr unknown)]

end TypeRules
