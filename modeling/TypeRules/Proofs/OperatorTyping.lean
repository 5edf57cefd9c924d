import TypeRules.Proofs.Assignability
import TypeRules.Proofs.Identity

/-!
# The typing rules of binary operators

A binary operator on operands that are not both constants first asks whether
one operand may be stored in the type of the other, and then whether it is
defined on that type.  Assignability lets far more pass than operators should
accept: anything goes into `any`, a null pointer into every pointer, lists into
arrays.  `BinaryOp.Yields` states the rules without that detour, and the main
result is that the checker follows exactly these rules.
-/

namespace TypeRules

/-! ## The rules -/

/-- The kinds on which an operator other than a shift is defined. -/
inductive BinaryOp.DefinedOn : BinaryOp → Kind Ty → Prop where
  | int {op : BinaryOp} (combines : op.isShift = false) (width : Nat) :
      DefinedOn op (.int width)
  | uint {op : BinaryOp} (combines : op.isShift = false) (width : Nat) :
      DefinedOn op (.uint width)
  | float {op : BinaryOp} (arithmetic : op ∈ [.add, .sub, .mul, .div])
      (width : Nat) : DefinedOn op (.float width)
  | string : DefinedOn .add .string

/--
The type that an operator yields on two operands.  A shift has the type of its
left operand.  Any other operator has the type of both operands, or of the one
that is not a constant; that one has to be on the left, unless untyped operands
are converted.
-/
inductive BinaryOp.Yields (options : Options) (op : BinaryOp) :
    Ty → Ty → Ty → Prop where
  | alike {type : Ty} (defined : op.DefinedOn type.kind) :
      Yields options op type type type
  | constantRight {type right : Ty} {constant : Constant}
      (defined : op.DefinedOn type.kind)
      (untyped : right.kind = .untyped constant)
      (accepted : Assignable options type right) :
      Yields options op type right type
  | constantLeft {left type : Ty} {constant : Constant}
      (converts : options.untypedOperandConversion = true)
      (defined : op.DefinedOn type.kind)
      (untyped : left.kind = .untyped constant)
      (accepted : Assignable options type left) :
      Yields options op left type type
  | shiftByUnsigned {left right : Ty} {leftWidth rightWidth : Nat}
      (shift : op.isShift = true) (signed : left.kind = .int leftWidth)
      (exempt : options.shiftOperandsExempt = true)
      (unsigned : right.kind = .uint rightWidth) :
      Yields options op left right left
  | shiftByConstant {left right : Ty} {width : Nat} {constant : Constant}
      (shift : op.isShift = true) (signed : left.kind = .int width)
      (converts : options.untypedOperandConversion = true)
      (untyped : right.kind = .untyped constant)
      (integral : constant.isIntegral = true)
      (natural : 0 ≤ constant.toInt128.toInt)
      (fits :
        options.shiftOperandsExempt = false →
          left.kind.Holds options constant.toInt128.toInt) :
      Yields options op left right left

namespace BinaryOp

theorem appliesTo_iff {op : BinaryOp} {kind : Kind Ty} :
    op.appliesTo kind = true ↔ op.DefinedOn kind := by
  constructor
  · intro applies
    cases kind with
    | int width =>
        refine .int ?_ width
        cases op <;> simp_all [appliesTo, isShift]
    | uint width =>
        refine .uint ?_ width
        cases op <;> simp_all [appliesTo, isShift]
    | float width =>
        refine .float ?_ width
        cases op <;> simp_all [appliesTo, Kind.isInteger]
    | string =>
        cases op with
        | add => exact .string
        | sub | mul | div | rem | bitAnd | bitOr | bitXor | bitClear
        | shiftLeft | shiftRight => cases applies
    | bool | pointer | array | slice | struct | func | list | untyped
    | unknown | any | void | variadicAny => cases op <;> cases applies
  · intro defined
    cases defined with
    | int combines width | uint combines width =>
        cases op <;> first | rfl | cases combines
    | float arithmetic width =>
        simp only [List.mem_cons, List.not_mem_nil, or_false] at arithmetic
        rcases arithmetic with rfl | rfl | rfl | rfl <;> rfl
    | string => rfl

namespace DefinedOn

variable {op : BinaryOp} {kind : Kind Ty}

theorem isShift (defined : op.DefinedOn kind) : op.isShift = false := by
  cases defined with
  | int combines | uint combines => exact combines
  | float arithmetic =>
      simp only [List.mem_cons, List.not_mem_nil, or_false] at arithmetic
      rcases arithmetic with rfl | rfl | rfl | rfl <;> rfl
  | string => rfl

theorem numeric_or_string (defined : op.DefinedOn kind) :
    kind.isNumeric = true ∨ kind = .string := by
  cases defined with
  | int | uint | float => exact Or.inl rfl
  | string => exact Or.inr rfl

theorem constant?_eq_none (defined : op.DefinedOn kind) :
    kind.constant? = none := by
  cases defined <;> rfl

end DefinedOn

namespace Yields

variable {options : Options} {op : BinaryOp} {left right type : Ty}

theorem numeric_or_string (yields : op.Yields options left right type) :
    type.kind.isNumeric = true ∨ type.kind = .string := by
  cases yields with
  | alike defined | constantRight defined | constantLeft _ defined =>
      exact defined.numeric_or_string
  | shiftByUnsigned _ signed | shiftByConstant _ signed =>
      rw [signed]
      exact Or.inl rfl

theorem known (yields : op.Yields options left right type) :
    type.kind ≠ .unknown := by
  intro unknown
  have proper := yields.numeric_or_string
  simp [unknown, Kind.isNumeric] at proper

theorem typed (yields : op.Yields options left right type)
    (constant : Constant) : type.kind ≠ .untyped constant := by
  intro untyped
  have proper := yields.numeric_or_string
  simp [untyped, Kind.isNumeric] at proper

end Yields

end BinaryOp

/-! ## What goes into numbers and strings -/

namespace Assignable

variable {options : Options} {dest source : Ty}

/-- A number or a string takes nothing but itself and constants. -/
theorem eq_or_constant (assignable : Assignable options dest source)
    (proper : dest.kind.isNumeric = true ∨ dest.kind = .string)
    (known : source.kind ≠ .unknown)
    (unique : dest.id = source.id → dest = source) :
    dest = source ∨ ∃ constant, source.kind = .untyped constant := by
  cases assignable with
  | same ids => exact Or.inl (unique ids)
  | constantToFloat _ untyped => exact Or.inr ⟨_, untyped⟩
  | constantToInteger untyped => exact Or.inr ⟨_, untyped⟩
  | ofUnknown unknown => exact (known unknown).elim
  | toUnknown kind | toAny kind | nilPointer _ kind | listToArray kind
  | listToSlice kind | listToList kind =>
      simp [kind, Kind.isNumeric] at proper

theorem holds_of_constant (assignable : Assignable options dest source)
    {width : Nat} {constant : Constant} (signed : dest.kind = .int width)
    (untyped : source.kind = .untyped constant)
    (unique : dest.id = source.id → dest = source) :
    dest.kind.Holds options constant.toInt128.toInt := by
  cases assignable with
  | same ids =>
      rw [unique ids, untyped] at signed
      cases signed
  | constantToInteger other _ holds =>
      rw [untyped] at other
      cases other
      exact holds
  | ofUnknown kind =>
      rw [untyped] at kind
      cases kind
  | toUnknown kind | toAny kind | nilPointer _ kind | constantToFloat kind
  | listToArray kind | listToSlice kind | listToList kind =>
      rw [signed] at kind
      cases kind

end Assignable

/-! ## Shift counts -/

theorem Kind.isShiftable_iff {kind : Kind Ty} :
    kind.isShiftable = true ↔ ∃ width, kind = .int width := by
  cases kind <;> simp [Kind.isShiftable]

theorem Kind.isShiftCount_iff {options : Options} {kind : Kind Ty} :
    kind.isShiftCount options = true ↔
      (∃ width, kind = .uint width) ∨
        ∃ constant, kind = .untyped constant ∧
          options.untypedOperandConversion = true ∧
          constant.isIntegral = true ∧ 0 ≤ constant.toInt128.toInt := by
  cases kind <;> simp [Kind.isShiftCount, and_assoc]

theorem Kind.constant?_eq_some_iff {kind : Kind Ty} {constant : Constant} :
    kind.constant? = some constant ↔ kind = .untyped constant := by
  cases kind <;> simp [Kind.constant?]

/-! ## Verdicts on typed operands -/

/-- A verdict that finds something wrong. -/
inductive Verdict.IsRejected : Verdict → Prop where
  | intro (problem : Problem Ty) (problems : List (Problem Ty)) :
      IsRejected (.rejected (problem :: problems))

theorem Verdict.IsRejected.conclude_eq_unknown {verdict : Verdict}
    (rejected : verdict.IsRejected) (checker : Checker) (span : Span) :
    (checker.conclude span verdict).1 = Ty.unknown := by
  cases rejected with
  | intro problem problems => exact Checker.conclude_type rfl checker span

namespace BinaryOp

variable {options : Options} {op : BinaryOp} {left right : Ty}

theorem apply_of_shift (shift : op.isShift = true) (subject : Ty) :
    op.apply options subject left right =
      if left.kind.isShiftable && right.kind.isShiftCount options then
        .yields left
      else .rejected [.operatorOnTypes op.token left right] := by
  rw [apply, if_pos shift]

theorem apply_of_not_shift (combines : op.isShift = false) (subject : Ty) :
    op.apply options subject left right =
      if op.appliesTo subject.kind then .yields subject
      else .rejected [.operatorOnType op.token subject] := by
  rw [apply, if_neg (by simp [combines])]

theorem apply_of_definedOn {subject : Ty}
    (defined : op.DefinedOn subject.kind) :
    op.apply options subject left right = .yields subject := by
  rw [apply_of_not_shift defined.isShift, if_pos (appliesTo_iff.mpr defined)]

theorem apply_of_shiftCount (shift : op.isShift = true) {width : Nat}
    (signed : left.kind = .int width)
    (count : right.kind.isShiftCount options = true) (subject : Ty) :
    op.apply options subject left right = .yields left := by
  rw [apply_of_shift shift, if_pos]
  rw [Bool.and_eq_true, Kind.isShiftable_iff]
  exact ⟨⟨width, signed⟩, count⟩

/--
The operator is applied to operands of which the right one may take the place of
the left one, unless the operands of a shift are exempt from that.
-/
theorem checkTyped_cases_left
    (stays :
      options.untypedOperandConversion = false ∨
        left.kind.constant? = none ∨ op.isShift = true) :
    (op.isShift = true ∧ options.shiftOperandsExempt = true ∨
          Assignable options left right) ∧
        op.checkTyped options left right = op.apply options left left right ∨
      ¬ (op.isShift = true ∧ options.shiftOperandsExempt = true) ∧
        ¬ Assignable options left right ∧
        ∃ problem, op.checkTyped options left right =
          .rejected [problem, .mismatchedOperands left right] := by
  have converts :
      (options.untypedOperandConversion && left.kind.constant?.isSome &&
        !op.isShift) = false := by
    rcases stays with off | typed | shift
    · simp [off]
    · simp [typed]
    · simp [shift]
  simp only [checkTyped, converts, Bool.false_eq_true, if_false,
    Bool.and_eq_true, ← Ty.obstacle?_eq_none_iff]
  split_ifs with exempt
  · exact Or.inl ⟨Or.inl exempt, rfl⟩
  · cases found : left.obstacle? options right with
    | none => exact Or.inl ⟨Or.inr rfl, rfl⟩
    | some problem => exact Or.inr ⟨exempt, by simp, problem, rfl⟩

/-- A converted left operand has to be able to take the place of the right one. -/
theorem checkTyped_cases_right
    (converts : options.untypedOperandConversion = true)
    {constant : Constant} (untyped : left.kind = .untyped constant)
    (combines : op.isShift = false) :
    Assignable options right left ∧
        op.checkTyped options left right = op.apply options right left right ∨
      ¬ Assignable options right left ∧
        ∃ problem, op.checkTyped options left right =
          .rejected [problem, .mismatchedOperands left right] := by
  simp only [checkTyped, converts, untyped, Kind.constant?, combines,
    Option.isSome_some, Bool.not_false, Bool.and_true, Bool.false_and,
    Bool.false_eq_true, if_true, if_false, ← Ty.obstacle?_eq_none_iff]
  cases found : right.obstacle? options left with
  | none => exact Or.inl ⟨rfl, rfl⟩
  | some problem => exact Or.inr ⟨by simp, problem, rfl⟩

/-- Where a rule applies the verdict is the type that it gives. -/
theorem checkTyped_of_yields {type : Ty}
    (yields : op.Yields options left right type) :
    op.checkTyped options left right = .yields type := by
  have combined {type other : Ty} (defined : op.DefinedOn type.kind)
      (accepted : Assignable options type other) :
      op.checkTyped options type other = .yields type := by
    rcases checkTyped_cases_left
        (Or.inr (Or.inl defined.constant?_eq_none)) with
      ⟨-, applied⟩ | ⟨-, blocked, -⟩
    · rw [applied, apply_of_definedOn defined]
    · exact (blocked accepted).elim
  have shifted {width : Nat} (shift : op.isShift = true)
      (signed : left.kind = .int width)
      (count : right.kind.isShiftCount options = true)
      (passes :
        options.shiftOperandsExempt = true ∨
          Assignable options left right) :
      op.checkTyped options left right = .yields left := by
    rcases checkTyped_cases_left (Or.inr (Or.inr shift)) with
      ⟨-, applied⟩ | ⟨gated, blocked, -⟩
    · rw [applied, apply_of_shiftCount shift signed count]
    · rcases passes with exempt | accepted
      · exact (gated ⟨shift, exempt⟩).elim
      · exact (blocked accepted).elim
  cases yields with
  | alike defined => exact combined defined (.same rfl)
  | constantRight defined _ accepted => exact combined defined accepted
  | constantLeft converts defined untyped accepted =>
      rcases checkTyped_cases_right converts untyped defined.isShift with
        ⟨-, applied⟩ | ⟨blocked, -⟩
      · rw [applied, apply_of_definedOn defined]
      · exact (blocked accepted).elim
  | shiftByUnsigned shift signed exempt unsigned =>
      exact shifted shift signed
        (Kind.isShiftCount_iff.mpr (Or.inl ⟨_, unsigned⟩)) (Or.inl exempt)
  | shiftByConstant shift signed converts untyped integral natural fits =>
      refine shifted shift signed (Kind.isShiftCount_iff.mpr
        (Or.inr ⟨_, untyped, converts, integral, natural⟩)) ?_
      cases exempt : options.shiftOperandsExempt with
      | true => exact Or.inl rfl
      | false =>
          exact Or.inr (.constantToInteger untyped integral (fits exempt))

theorem Yields.unique {type other : Ty}
    (yields : op.Yields options left right type)
    (otherYields : op.Yields options left right other) : type = other := by
  have verdicts : Verdict.yields type = .yields other := by
    rw [← checkTyped_of_yields yields, checkTyped_of_yields otherYields]
  cases verdicts
  rfl

theorem Yields.not_isRejected {type : Ty}
    (yields : op.Yields options left right type) :
    ¬ (op.checkTyped options left right).IsRejected := by
  rw [checkTyped_of_yields yields]
  intro rejected
  cases rejected

/-! ## No other verdicts -/

theorem yields_or_rejected_of_shift (shift : op.isShift = true)
    (unique : left.id = right.id → left = right) :
    (∃ type, op.Yields options left right type) ∨
      (op.checkTyped options left right).IsRejected := by
  rcases checkTyped_cases_left (Or.inr (Or.inr shift)) with
    ⟨passes, applied⟩ | ⟨-, -, problem, rejected⟩
  · rw [applied, apply_of_shift shift]
    split_ifs with applies
    · rw [Bool.and_eq_true, Kind.isShiftable_iff, Kind.isShiftCount_iff]
        at applies
      rcases applies with ⟨⟨width, signed⟩, ⟨countWidth, unsigned⟩ |
        ⟨constant, untyped, converts, integral, natural⟩⟩
      · rcases passes with ⟨-, exempt⟩ | accepted
        · exact Or.inl ⟨left, .shiftByUnsigned shift signed exempt unsigned⟩
        -- Without the exemption nothing unsigned gets past the gate, since it
        -- is never assignable to a signed number.
        · have numeric : left.kind.isNumeric = true := by
            rw [signed]
            rfl
          rcases accepted.eq_or_constant (Or.inl numeric) (by simp [unsigned])
              unique with
            rfl | ⟨constant, untyped⟩
          · rw [signed] at unsigned
            cases unsigned
          · rw [unsigned] at untyped
            cases untyped
      · refine Or.inl ⟨left,
          .shiftByConstant shift signed converts untyped integral natural ?_⟩
        intro gated
        have accepted := passes.resolve_left (by simp [gated])
        exact accepted.holds_of_constant signed untyped unique
    · exact Or.inr (.intro _ _)
  · rw [rejected]
    exact Or.inr (.intro _ _)

theorem yields_or_rejected_of_left (combines : op.isShift = false)
    (stays :
      options.untypedOperandConversion = false ∨ left.kind.constant? = none)
    (rightKnown : right.kind ≠ .unknown)
    (unique : left.id = right.id → left = right) :
    (∃ type, op.Yields options left right type) ∨
      (op.checkTyped options left right).IsRejected := by
  rcases checkTyped_cases_left (stays.imp_right Or.inl) with
    ⟨passes, applied⟩ | ⟨-, -, problem, rejected⟩
  · rw [applied, apply_of_not_shift combines]
    have accepted := passes.resolve_left (by simp [combines])
    split_ifs with applies
    · have defined := appliesTo_iff.mp applies
      rcases accepted.eq_or_constant defined.numeric_or_string rightKnown
          unique with
        rfl | ⟨constant, untyped⟩
      · exact Or.inl ⟨left, .alike defined⟩
      · exact Or.inl ⟨left, .constantRight defined untyped accepted⟩
    · exact Or.inr (.intro _ _)
  · rw [rejected]
    exact Or.inr (.intro _ _)

theorem yields_or_rejected_of_right (combines : op.isShift = false)
    (converts : options.untypedOperandConversion = true)
    {constant : Constant} (untyped : left.kind = .untyped constant) :
    (∃ type, op.Yields options left right type) ∨
      (op.checkTyped options left right).IsRejected := by
  rcases checkTyped_cases_right converts untyped combines with
    ⟨accepted, applied⟩ | ⟨-, problem, rejected⟩
  · rw [applied, apply_of_not_shift combines]
    split_ifs with applies
    · exact Or.inl ⟨right, .constantLeft converts
        (appliesTo_iff.mp applies) untyped accepted⟩
    · exact Or.inr (.intro _ _)
  · rw [rejected]
    exact Or.inr (.intro _ _)

/-- Either a rule applies, or something is wrong. -/
theorem yields_or_rejected (rightKnown : right.kind ≠ .unknown)
    (unique : left.id = right.id → left = right) :
    (∃ type, op.Yields options left right type) ∨
      (op.checkTyped options left right).IsRejected := by
  cases shift : op.isShift with
  | true => exact yields_or_rejected_of_shift shift unique
  | false =>
      cases converts : options.untypedOperandConversion with
      | false =>
          exact yields_or_rejected_of_left shift (Or.inl converts) rightKnown
            unique
      | true =>
          cases kind : left.kind.constant? with
          | none =>
              exact yields_or_rejected_of_left shift (Or.inr kind) rightKnown
                unique
          | some constant =>
              exact yields_or_rejected_of_right shift converts
                (Kind.constant?_eq_some_iff.mp kind)

theorem check_of_typed (leftKnown : left.kind ≠ .unknown)
    (rightKnown : right.kind ≠ .unknown)
    (typed : left.kind.constant? = none ∨ right.kind.constant? = none) :
    op.check options left right = op.checkTyped options left right := by
  have known : ¬ (left.kind.isUnknown || right.kind.isUnknown) = true := by
    rw [Bool.or_eq_true, Kind.isUnknown_iff, Kind.isUnknown_iff]
    exact not_or_intro leftKnown rightKnown
  rw [check, if_neg known]
  rcases typed with leftTyped | rightTyped
  · rw [leftTyped]
  · rw [rightTyped]
    cases left.kind.constant? <;> rfl

end BinaryOp

/-! ## The checker follows the rules -/

/--
A binary operation on known operands of an arena that are not both constants
yields a known type exactly if a rule gives one.  It then yields that type and
changes nothing, so nothing is reported.  It never yields a constant.
-/
theorem Checker.binary_follows_rules {checker : Checker}
    (reachable : checker.Reachable) (span : Span) (op : BinaryOp)
    {left right : Ty} (leftMember : left ∈ checker.arena.types)
    (rightMember : right ∈ checker.arena.types)
    (leftKnown : left.kind ≠ .unknown) (rightKnown : right.kind ≠ .unknown)
    (typed : left.kind.constant? = none ∨ right.kind.constant? = none) :
    ((checker.binary span op left right).1.kind ≠ .unknown ↔
        ∃ type, op.Yields checker.options left right type) ∧
      (∀ type, op.Yields checker.options left right type →
        checker.binary span op left right = (type, checker)) ∧
      ∀ constant,
        (checker.binary span op left right).1.kind ≠ .untyped constant := by
  have unique : left.id = right.id → left = right :=
    reachable.wellFormed.identified left right (.member leftMember)
      (.member rightMember)
  rw [binary, BinaryOp.check_of_typed leftKnown rightKnown typed]
  rcases BinaryOp.yields_or_rejected rightKnown unique with
    ⟨type, yields⟩ | rejected
  · rw [BinaryOp.checkTyped_of_yields yields]
    refine ⟨⟨fun _ => ⟨type, yields⟩, fun _ => yields.known⟩, ?_, yields.typed⟩
    intro other otherYields
    rw [yields.unique otherYields]
    rfl
  · have noRule (type : Ty) : ¬ op.Yields checker.options left right type :=
      fun yields => yields.not_isRejected rejected
    rw [rejected.conclude_eq_unknown checker span]
    refine ⟨⟨?_, ?_⟩, ?_, ?_⟩
    · intro known
      exact (known rfl).elim
    · rintro ⟨type, yields⟩
      exact (noRule type yields).elim
    · intro type yields
      exact (noRule type yields).elim
    · rintro constant ⟨⟩

/-- Bytes, in an arena that made them first. -/
def Ty.byte : Ty :=
  ⟨6, none, .uint 8⟩

/-- A number that is a byte, but too large for a signed byte. -/
def Ty.largeByte : Ty :=
  ⟨7, none, .untyped (.ofInt128 (.saturate 200))⟩

/-- A run that makes both, with operands converted. -/
def Checker.bytesRun : Checker :=
  let options := { Options.standard with untypedOperandConversion := true }
  let bytes := ((initial options).serve (.predeclared "byte")).2
  (bytes.serve (.construct (.integer (.saturate 200)))).2

theorem Checker.binary_follows_rules_bytesRun :
    bytesRun.Reachable ∧
      bytesRun.binary .unplaced .sub Ty.largeByte Ty.byte =
        (Ty.byte, bytesRun) ∧
      ¬ ∃ type, BinaryOp.shiftLeft.Yields bytesRun.options Ty.byte
        Ty.largeByte type := by
  have reachable : bytesRun.Reachable := by
    refine .serve _ (.serve _ (.initial _) ?_) ?_
    · simp [Request.operands]
    · simp [Request.operands, Construction.operands]
  have byte : Ty.byte ∈ bytesRun.arena.types :=
    Array.mem_of_getElem? (i := 6) rfl
  have largeByte : Ty.largeByte ∈ bytesRun.arena.types :=
    Array.mem_of_getElem? (i := 7) rfl
  have byteKnown : Ty.byte.kind ≠ .unknown :=
    Kind.isUnknown_iff.not.mp (by decide)
  have largeByteKnown : Ty.largeByte.kind ≠ .unknown :=
    Kind.isUnknown_iff.not.mp (by decide)
  have accepted : Assignable bytesRun.options Ty.byte Ty.largeByte :=
    Ty.obstacle?_eq_none_iff.mp rfl
  refine ⟨reachable, ?_, ?_⟩
  · have rules := binary_follows_rules reachable .unplaced .sub largeByte
      byte largeByteKnown byteKnown (Or.inr rfl)
    exact rules.2.1 Ty.byte (.constantLeft rfl (.uint rfl 8) rfl accepted)
  · have rules := binary_follows_rules reachable .unplaced .shiftLeft byte
      largeByte byteKnown largeByteKnown (Or.inl rfl)
    rw [← rules.1]
    exact fun known => known rfl

end TypeRules
