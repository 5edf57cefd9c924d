import TypeRules.Assignment

/-!
# Operators and calls

Checking an operation gives a verdict: the type of the result and the problems
found.  A verdict is decided from the operand types and the options alone.  Its
result may be a type still to be made, which is left to whoever owns an arena.
Operands that were already found to be wrong are passed over in silence.
-/

namespace TypeRules

/-- The type that an operation yields. -/
inductive Result where
  /-- A type there already is. -/
  | type (type : Ty)
  /-- A new constant. -/
  | constant (constant : Constant)
  /-- The pointers to a type. -/
  | pointerTo (base : Ty)

/-- What checking an operation comes to. -/
structure Verdict where
  /-- The type of the result. -/
  result : Result
  /-- The problems found, in order. -/
  problems : List (Problem Ty)

namespace Verdict

/-- The operation is right and yields a type there already is. -/
def yields (type : Ty) : Verdict :=
  ⟨.type type, []⟩

/-- Nothing is known of the result, and nothing new is wrong. -/
def silent : Verdict :=
  yields Ty.unknown

/-- The operation is wrong for the given reasons. -/
def rejected (problems : List (Problem Ty)) : Verdict :=
  ⟨.type Ty.unknown, problems⟩

/-- The operation is folded. -/
def ofFold : Except FoldFailure Constant → Verdict
  | .ok constant => ⟨.constant constant, []⟩
  | .error failure => rejected [.folding failure]

end Verdict

/-! ## Binary operators -/

/-- Whether an operator other than a shift is defined on a kind. -/
def BinaryOp.appliesTo (op : BinaryOp) (kind : Kind Ty) : Bool :=
  match op with
  | .add =>
      kind.isNumeric ||
        match kind with
        | .string => true
        | _ => false
  | .sub | .mul | .div => kind.isNumeric
  | .rem | .bitAnd | .bitOr | .bitXor | .bitClear => kind.isInteger
  | .shiftLeft | .shiftRight => false

/-- Whether a kind can be shifted. -/
def Kind.isShiftable : Kind Ty → Bool
  | .int _ => true
  | _ => false

/--
Whether a kind can be shifted by: an unsigned integer, and with conversion of
untyped operands also a constant that one can hold.
-/
def Kind.isShiftCount (options : Options) : Kind Ty → Bool
  | .untyped constant =>
      options.untypedOperandConversion && constant.isIntegral &&
        0 ≤ constant.toInt128.toInt
  | .uint _ => true
  | _ => false

/--
Apply an operator to operands that go together.  The subject is the operand
whose type the result has; a shift has the type of its left operand.
-/
def BinaryOp.apply (op : BinaryOp) (options : Options)
    (subject left right : Ty) : Verdict :=
  if op.isShift then
    if left.kind.isShiftable && right.kind.isShiftCount options then
      .yields left
    else .rejected [.operatorOnTypes op.token left right]
  else if op.appliesTo subject.kind then .yields subject
  else .rejected [.operatorOnType op.token subject]

/--
Check an operator on operands that are not both constants.  One operand has to
be assignable to the other, the subject; that is the left one, unless the left
one is a constant that takes the type of the right one.
-/
def BinaryOp.checkTyped (op : BinaryOp) (options : Options)
    (left right : Ty) : Verdict :=
  let converts :=
    options.untypedOperandConversion && left.kind.constant?.isSome &&
      !op.isShift
  let subject := if converts then right else left
  let other := if converts then left else right
  if op.isShift && options.shiftOperandsExempt then
    op.apply options subject left right
  else
    match subject.obstacle? options other with
    | some problem => .rejected [problem, .mismatchedOperands left right]
    | none => op.apply options subject left right

/-- Check a binary operation. -/
def BinaryOp.check (op : BinaryOp) (options : Options) (left right : Ty) :
    Verdict :=
  if left.kind.isUnknown || right.kind.isUnknown then .silent
  else
    match left.kind.constant?, right.kind.constant? with
    | some leftConstant, some rightConstant =>
        match leftConstant.fold? op rightConstant with
        | some folded => .ofFold folded
        | none => op.apply options left left right
    | _, _ => op.checkTyped options left right

/-! ## Unary operators -/

/-- Check a unary operation on an operand that is not already wrong. -/
def UnaryOp.checkKnown (op : UnaryOp) (options : Options) (operand : Ty) :
    Verdict :=
  let wrong := Verdict.rejected [.operatorOnType op.token operand]
  match op, operand.kind with
  | .plus, .untyped _ => .yields operand
  | .plus, kind => if kind.isNumeric then .yields operand else wrong
  | .minus, .untyped constant => .ofFold constant.negate
  | .minus, kind => if kind.isNumeric then .yields operand else wrong
  | .not, .bool => .yields operand
  | .bitNot, .untyped constant =>
      if constant.isExactInteger then
        ⟨.constant (.ofInt128 constant.toInt128.complement), []⟩
      else wrong
  | .bitNot, kind => if kind.isInteger then .yields operand else wrong
  | .deref, .pointer base => .yields base
  | .addressOf, .pointer _ | .addressOf, .slice _ =>
      if options.addressOfYieldsPointer then ⟨.pointerTo operand, []⟩
      else .silent
  | _, _ => wrong

/-- Check a unary operation. -/
def UnaryOp.check (op : UnaryOp) (options : Options) (operand : Ty) :
    Verdict :=
  if operand.kind.isUnknown then .silent else op.checkKnown options operand

/-! ## Calls -/

/--
The problems of passing arguments to parameters, where a call has `arity`
parameters and `count` arguments in all.  From a parameter that takes any
number of arguments on, all arguments are fine.
-/
def argumentProblems (options : Options) (arity count : Nat) :
    List Ty → List Ty → List (Problem Ty)
  | [], [] => []
  | [], _ :: _ => [.tooManyArguments arity count]
  | param :: _, [] =>
      if param.kind.isVariadicAny then [] else [.tooFewArguments arity count]
  | param :: params, arg :: args =>
      if param.kind.isVariadicAny then []
      else
        (param.obstacle? options arg).toList ++
          argumentProblems options arity count params args

/--
Check a call of a function.  Whatever the arguments are, the result is the
first result of the function, if it has any.
-/
def checkCall (options : Options) (params results args : List Ty) : Verdict :=
  ⟨.type (results.head?.getD Ty.void),
    argumentProblems options params.length args.length params args⟩

/-- Check a call of a value of any type. -/
def Ty.checkCall (options : Options) (callee : Ty) (args : List Ty) :
    Verdict :=
  match callee.kind with
  | .unknown => .silent
  | .func params results => TypeRules.checkCall options params results args
  | _ => .rejected [.notCallable callee]

end TypeRules
