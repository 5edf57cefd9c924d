import TypeRules.Proofs.AssignmentOptions
import TypeRules.Proofs.OperatorTyping
import TypeRules.Proofs.Rendering

/-!
# The options of operators only extend

Two options are about binary operators alone: whether untyped operands are
converted, and whether the operands of shifts are exempt from being assignable
to each other.  Conversion also exchanges the parts of the two operands, so it
is not plain that nothing gets lost by it.  The rules of operators show that
nothing does: a rule that applies without an option applies with it.

Constants are folded before any option is looked at.  What two constants come to
is therefore the same under all options.
-/

namespace TypeRules

/-! ## Options that allow more -/

/-- Options of which the second let operators do all that the first do. -/
structure Options.Extends (narrow wide : Options) : Prop where
  unsignedRange : narrow.unsignedRange = wide.unsignedRange
  nilPointer : narrow.nilPointer = wide.nilPointer
  exempts :
    narrow.shiftOperandsExempt = true → wide.shiftOperandsExempt = true
  converts :
    narrow.untypedOperandConversion = true →
      wide.untypedOperandConversion = true

/-- One option of operators is turned on and all others are as they were. -/
inductive Options.TurnsOn : Options → Options → Prop where
  | conversion (options : Options) :
      TurnsOn { options with untypedOperandConversion := false }
        { options with untypedOperandConversion := true }
  | exemption (options : Options) :
      TurnsOn { options with shiftOperandsExempt := false }
        { options with shiftOperandsExempt := true }

theorem Options.TurnsOn.extends {narrow wide : Options}
    (turnsOn : narrow.TurnsOn wide) : narrow.Extends wide := by
  cases turnsOn with
  | conversion options | exemption options => constructor <;> simp

namespace BinaryOp

variable {narrow wide : Options} {op : BinaryOp} {left right type : Ty}

/-- A rule that applies under some options applies under wider ones. -/
theorem Yields.extend (extension : narrow.Extends wide)
    (yields : op.Yields narrow left right type) :
    op.Yields wide left right type := by
  have transferred {dest source : Ty}
      (accepted : Assignable narrow dest source) :
      Assignable wide dest source :=
    accepted.transfer extension.unsignedRange extension.nilPointer.symm.trans
  cases yields with
  | alike defined => exact .alike defined
  | constantRight defined untyped accepted =>
      exact .constantRight defined untyped (transferred accepted)
  | constantLeft converts defined untyped accepted =>
      exact .constantLeft (extension.converts converts) defined untyped
        (transferred accepted)
  | shiftByUnsigned shift signed exempt unsigned =>
      exact .shiftByUnsigned shift signed (extension.exempts exempt) unsigned
  | shiftByConstant shift signed converts untyped integral natural fits =>
      refine .shiftByConstant shift signed (extension.converts converts)
        untyped integral natural ?_
      -- Without the exemption now, there was none before.
      intro gated
      have gatedBefore : narrow.shiftOperandsExempt = false := by
        rw [← Bool.not_eq_true]
        intro exempt
        rw [extension.exempts exempt] at gated
        cases gated
      exact (fits gatedBefore).transfer extension.unsignedRange

/-- Two constants are folded, and if that does not apply nothing else does. -/
theorem check_constants (op : BinaryOp) {leftConstant rightConstant : Constant}
    (leftUntyped : left.kind = .untyped leftConstant)
    (rightUntyped : right.kind = .untyped rightConstant)
    (options : Options) :
    op.check options left right =
      match leftConstant.fold? op rightConstant with
      | some folded => .ofFold folded
      | none =>
          if op.isShift then .rejected [.operatorOnTypes op.token left right]
          else .rejected [.operatorOnType op.token left] := by
  have notShiftable : left.kind.isShiftable = false := by
    rw [leftUntyped]
    rfl
  have notApplicable : op.appliesTo left.kind = false := by
    rw [leftUntyped]
    cases op <;> rfl
  simp only [check, leftUntyped, rightUntyped, Kind.isUnknown,
    Kind.constant?, Bool.or_self, Bool.false_eq_true, if_false]
  cases leftConstant.fold? op rightConstant with
  | some folded => rfl
  | none =>
      simp only [apply, notShiftable, notApplicable, Bool.false_and,
        Bool.false_eq_true, if_false]

/-- The verdict on two constants does not depend on the options. -/
theorem check_constants_congr (op : BinaryOp)
    {leftConstant rightConstant : Constant}
    (leftUntyped : left.kind = .untyped leftConstant)
    (rightUntyped : right.kind = .untyped rightConstant)
    (options other : Options) :
    op.check options left right = op.check other left right := by
  rw [check_constants op leftUntyped rightUntyped,
    check_constants op leftUntyped rightUntyped]

/-- Two constants fold to a constant without a problem, or nothing is known. -/
theorem check_constants_cases (op : BinaryOp)
    {leftConstant rightConstant : Constant}
    (leftUntyped : left.kind = .untyped leftConstant)
    (rightUntyped : right.kind = .untyped rightConstant)
    (options : Options) :
    (op.check options left right).result = .type Ty.unknown ∨
      ∃ constant,
        op.check options left right = ⟨.constant constant, []⟩ := by
  rw [check_constants op leftUntyped rightUntyped]
  cases leftConstant.fold? op rightConstant with
  | none =>
      dsimp only
      split_ifs <;> exact Or.inl rfl
  | some folded =>
      cases folded with
      | error failure => exact Or.inl rfl
      | ok constant => exact Or.inr ⟨constant, rfl⟩

end BinaryOp

/-! ## One operation under two sets of options -/

/-- The types are constants of one text and one value. -/
def Ty.SameConstant (first second : Ty) : Prop :=
  ∃ constant, first.kind = .untyped constant ∧ second.kind = .untyped constant

namespace Checker

variable {first second : Checker} {left right : Ty}

/-- A known result of operands that are not both constants stays as it is. -/
theorem binary_of_extends (reachable : first.Reachable)
    (leftMember : left ∈ first.arena.types)
    (rightMember : right ∈ first.arena.types)
    (typed : left.kind.constant? = none ∨ right.kind.constant? = none)
    (extension : first.options.Extends second.options) (span : Span)
    (op : BinaryOp)
    (known : (first.binary span op left right).1.kind ≠ .unknown) :
    second.binary span op left right =
      ((first.binary span op left right).1, second) := by
  have unique : left.id = right.id → left = right :=
    reachable.wellFormed.identified left right (.member leftMember)
      (.member rightMember)
  have operandsKnown : left.kind ≠ .unknown ∧ right.kind ≠ .unknown := by
    rw [← not_or]
    intro unknown
    apply known
    rw [binary, op.check_of_unknown _ unknown]
    rfl
  have checked (options : Options) :
      op.check options left right = op.checkTyped options left right :=
    BinaryOp.check_of_typed operandsKnown.1 operandsKnown.2 typed
  rw [binary, checked] at known
  rw [binary, binary, checked, checked]
  have decided :
      (∃ type, op.Yields first.options left right type) ∨
        (op.checkTyped first.options left right).IsRejected :=
    BinaryOp.yields_or_rejected operandsKnown.2 unique
  rcases decided with ⟨type, yields⟩ | rejected
  · rw [BinaryOp.checkTyped_of_yields yields,
      BinaryOp.checkTyped_of_yields (yields.extend extension)]
    rfl
  · rw [rejected.conclude_eq_unknown first span] at known
    exact (known rfl).elim

/-- Two constants come to the same, whatever the options are. -/
theorem binary_constants (firstReachable : first.Reachable)
    (secondReachable : second.Reachable)
    (firstOwns : ∀ operand ∈ [left, right], operand ∈ first.arena.types)
    (secondOwns : ∀ operand ∈ [left, right], operand ∈ second.arena.types)
    {leftConstant rightConstant : Constant}
    (leftUntyped : left.kind = .untyped leftConstant)
    (rightUntyped : right.kind = .untyped rightConstant) (span : Span)
    (op : BinaryOp) :
    ((first.binary span op left right).1 = Ty.unknown ∧
          (second.binary span op left right).1 = Ty.unknown ∨
        (first.binary span op left right).1.SameConstant
          (second.binary span op left right).1) ∧
      ∃ added,
        (first.binary span op left right).2.diagnostics =
            first.diagnostics ++ added ∧
          (second.binary span op left right).2.diagnostics =
            second.diagnostics ++ added := by
  have verdicts :=
    op.check_constants_congr leftUntyped rightUntyped second.options
      first.options
  have outcome := op.check_outcome first.options left right
  have firstOwned := outcome.owned firstReachable.wellFormed.closed firstOwns
  have secondOwned :=
    outcome.owned secondReachable.wellFormed.closed secondOwns
  rw [binary, binary, verdicts,
    conclude_findings firstReachable.truthful span firstOwned,
    conclude_findings secondReachable.truthful span secondOwned]
  refine ⟨?_, _, rfl, rfl⟩
  rcases op.check_constants_cases leftUntyped rightUntyped first.options with
    unknown | ⟨constant, folded⟩
  · exact Or.inl ⟨conclude_type unknown first span,
      conclude_type unknown second span⟩
  · rw [folded]
    exact Or.inr ⟨constant, conclude_constant rfl first span,
      conclude_constant rfl second span⟩

/-- A known result of two constants is the same one, and nothing is wrong. -/
theorem binary_constants_of_known {leftConstant rightConstant : Constant}
    (leftUntyped : left.kind = .untyped leftConstant)
    (rightUntyped : right.kind = .untyped rightConstant) (span : Span)
    (op : BinaryOp)
    (known : (first.binary span op left right).1.kind ≠ .unknown) :
    (first.binary span op left right).1.SameConstant
        (second.binary span op left right).1 ∧
      (second.binary span op left right).2.diagnostics =
        second.diagnostics := by
  have verdicts :=
    op.check_constants_congr leftUntyped rightUntyped second.options
      first.options
  rw [binary] at known
  rw [binary, binary, verdicts]
  rcases op.check_constants_cases leftUntyped rightUntyped first.options with
    unknown | ⟨constant, folded⟩
  · rw [conclude_type unknown] at known
    exact (known rfl).elim
  · rw [folded]
    exact ⟨⟨constant, conclude_constant rfl first span,
      conclude_constant rfl second span⟩, rfl⟩

/--
Let one option of operators be turned on.  An operation with a known result
then has the same result and nothing is reported: the very same type, or, where
two constants are folded, a constant of the same text and value.  What two
constants come to is altogether independent of the options: they fold to the
same constant or to nothing, with the same diagnostics.
-/
theorem operator_options_extend (firstReachable : first.Reachable)
    (secondReachable : second.Reachable)
    (firstOwns : ∀ operand ∈ [left, right], operand ∈ first.arena.types)
    (secondOwns : ∀ operand ∈ [left, right], operand ∈ second.arena.types)
    (span : Span) (op : BinaryOp) :
    (first.options.TurnsOn second.options →
        (first.binary span op left right).1.kind ≠ .unknown →
        (left.kind.constant? = none ∨ right.kind.constant? = none →
            second.binary span op left right =
              ((first.binary span op left right).1, second)) ∧
          ∀ leftConstant rightConstant,
            left.kind = .untyped leftConstant →
            right.kind = .untyped rightConstant →
            (first.binary span op left right).1.SameConstant
                (second.binary span op left right).1 ∧
              (second.binary span op left right).2.diagnostics =
                second.diagnostics) ∧
      ∀ leftConstant rightConstant,
        left.kind = .untyped leftConstant →
        right.kind = .untyped rightConstant →
        ((first.binary span op left right).1 = Ty.unknown ∧
              (second.binary span op left right).1 = Ty.unknown ∨
            (first.binary span op left right).1.SameConstant
              (second.binary span op left right).1) ∧
          ∃ added,
            (first.binary span op left right).2.diagnostics =
                first.diagnostics ++ added ∧
              (second.binary span op left right).2.diagnostics =
                second.diagnostics ++ added := by
  constructor
  · intro turnsOn known
    constructor
    · intro typed
      rw [List.forall_mem_cons, List.forall_mem_singleton] at firstOwns
      exact binary_of_extends firstReachable firstOwns.1 firstOwns.2 typed
        turnsOn.extends span op known
    · intro leftConstant rightConstant leftUntyped rightUntyped
      exact binary_constants_of_known leftUntyped rightUntyped span op known
  · intro leftConstant rightConstant leftUntyped rightUntyped
    exact binary_constants firstReachable secondReachable firstOwns secondOwns
      leftUntyped rightUntyped span op

/-- The run with bytes goes on with operands that are not converted. -/
def plainBytesRun : Checker :=
  (bytesRun.serve (.renew .standard)).2

theorem operator_options_extend_bytes :
    plainBytesRun.Reachable ∧ bytesRun.Reachable ∧
      plainBytesRun.options.TurnsOn bytesRun.options ∧
      bytesRun.binary .unplaced .sub Ty.byte Ty.largeByte =
        (Ty.byte, bytesRun) ∧
      (plainBytesRun.binary .unplaced .mul Ty.largeByte
        Ty.largeByte).1.SameConstant
          (bytesRun.binary .unplaced .mul Ty.largeByte Ty.largeByte).1 := by
  have reachable : bytesRun.Reachable := by
    refine .serve _ (.serve _ (.initial _) ?_) ?_
    · simp [Request.operands]
    · simp [Request.operands, Construction.operands]
  have plainReachable : plainBytesRun.Reachable := by
    refine .serve _ reachable ?_
    simp [Request.operands]
  have turnsOn : plainBytesRun.options.TurnsOn bytesRun.options :=
    .conversion .standard
  have byte : Ty.byte ∈ bytesRun.arena.types :=
    Array.mem_of_getElem? (i := 6) rfl
  have largeByte : Ty.largeByte ∈ bytesRun.arena.types :=
    Array.mem_of_getElem? (i := 7) rfl
  have mixed :=
    List.forall_mem_cons.mpr ⟨byte, List.forall_mem_singleton.mpr largeByte⟩
  have constants :=
    List.forall_mem_cons.mpr
      ⟨largeByte, List.forall_mem_singleton.mpr largeByte⟩
  refine ⟨plainReachable, reachable, turnsOn, ?_, ?_⟩
  · have extend := operator_options_extend plainReachable reachable mixed
      mixed .unplaced .sub
    exact (extend.1 turnsOn (Kind.isUnknown_iff.not.mp (by decide))).1
      (Or.inl rfl)
  · have extend := operator_options_extend plainReachable reachable constants
      constants .unplaced .mul
    exact ((extend.1 turnsOn (Kind.isUnknown_iff.not.mp (by decide))).2 _ _
      rfl rfl).1

end Checker

end TypeRules
