import Mathlib.Data.List.Basic
import TypeRules.Operation

/-!
# What operators come to

Operators reach their verdicts over many branches, but the verdicts themselves
are of a few sorts.  `Verdict.Outcome` lists these with the operands that they
refer to, for unary and binary operators alike.  What holds of every verdict of
an operator is derived from this list and not from the branches.
-/

namespace TypeRules

/-- The types that a problem refers to, in the order they are spelled in. -/
def Problem.types {τ : Type} : Problem τ → List τ
  | .incompatible source dest => [source, dest]
  | .overflows _ dest => [dest]
  | .truncated _ dest => [dest]
  | .lengthMismatch _ _ => []
  | .mismatchedOperands left right => [left, right]
  | .operatorOnType _ operand => [operand]
  | .operatorOnTypes _ left right => [left, right]
  | .tooManyArguments _ _ => []
  | .tooFewArguments _ _ => []
  | .notCallable callee => [callee]
  | .folding _ => []

/-- The verdicts that an operator can come to on the given operands. -/
inductive Verdict.Outcome (options : Options) (operands : List Ty) :
    Verdict → Prop where
  | yields {operand : Ty} (member : operand ∈ operands) :
      Outcome options operands (.yields operand)
  | base {operand base : Ty} (member : operand ∈ operands)
      (pointer : operand.kind = .pointer base) :
      Outcome options operands (.yields base)
  | address {operand : Ty} (member : operand ∈ operands) :
      Outcome options operands ⟨.pointerTo operand, []⟩
  | folded (result : Except FoldFailure Constant) :
      Outcome options operands (.ofFold result)
  | silent : Outcome options operands .silent
  | wrong {problem : Problem Ty}
      (refers : ∀ type ∈ problem.types, type ∈ operands) :
      Outcome options operands (.rejected [problem])
  /-- One operand cannot take the place of the other, and they mismatch. -/
  | mismatch {subject other : Ty} {obstacle problem : Problem Ty}
      (subjectMember : subject ∈ operands) (otherMember : other ∈ operands)
      (found : subject.obstacle? options other = some obstacle)
      (refers : ∀ type ∈ problem.types, type ∈ operands) :
      Outcome options operands (.rejected [obstacle, problem])

namespace BinaryOp

theorem apply_outcome (op : BinaryOp) (options : Options)
    {subject left right : Ty} (member : subject ∈ [left, right]) :
    (op.apply options subject left right).Outcome options [left, right] := by
  unfold apply
  split_ifs
  · exact .yields List.mem_cons_self
  · exact .wrong fun _ refers => refers
  · exact .yields member
  · exact .wrong (List.forall_mem_singleton.mpr member)

theorem checkTyped_outcome (op : BinaryOp) (options : Options)
    (left right : Ty) :
    (op.checkTyped options left right).Outcome options [left, right] := by
  have leftMember : left ∈ [left, right] := List.mem_cons_self
  have rightMember : right ∈ [left, right] :=
    List.mem_cons_of_mem left List.mem_cons_self
  unfold checkTyped
  extract_lets converts subject other
  have subjectMember : subject ∈ [left, right] := by
    unfold subject
    split_ifs
    · exact rightMember
    · exact leftMember
  have otherMember : other ∈ [left, right] := by
    unfold other
    split_ifs
    · exact leftMember
    · exact rightMember
  split
  · exact op.apply_outcome options subjectMember
  · split
    · next obstacle found =>
        exact .mismatch subjectMember otherMember found fun _ refers => refers
    · exact op.apply_outcome options subjectMember

theorem check_outcome (op : BinaryOp) (options : Options) (left right : Ty) :
    (op.check options left right).Outcome options [left, right] := by
  unfold check
  split_ifs
  · exact .silent
  · split
    · split
      · exact .folded _
      · exact op.apply_outcome options List.mem_cons_self
    · exact op.checkTyped_outcome options left right

end BinaryOp

namespace UnaryOp

theorem checkKnown_outcome (op : UnaryOp) (options : Options)
    (operand : Ty) :
    (op.checkKnown options operand).Outcome options [operand] := by
  have yields : (Verdict.yields operand).Outcome options [operand] :=
    .yields List.mem_cons_self
  have address :
      (Verdict.mk (.pointerTo operand) []).Outcome options [operand] :=
    .address List.mem_cons_self
  have wrong :
      (Verdict.rejected [.operatorOnType op.token operand]).Outcome options
        [operand] :=
    .wrong fun _ refers => refers
  unfold checkKnown
  split
  · exact yields
  · split_ifs
    · exact yields
    · exact wrong
  · exact .folded _
  · split_ifs
    · exact yields
    · exact wrong
  · exact yields
  · split_ifs
    · exact .folded (.ok _)
    · exact wrong
  · split_ifs
    · exact yields
    · exact wrong
  · next base pointer => exact .base List.mem_cons_self pointer
  · split_ifs
    · exact address
    · exact .silent
  · split_ifs
    · exact address
    · exact .silent
  · exact wrong

theorem check_outcome (op : UnaryOp) (options : Options) (operand : Ty) :
    (op.check options operand).Outcome options [operand] := by
  unfold check
  split_ifs
  · exact .silent
  · exact op.checkKnown_outcome options operand

end UnaryOp

end TypeRules
