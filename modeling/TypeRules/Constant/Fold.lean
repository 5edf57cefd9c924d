import TypeRules.Binary64.Arithmetic
import TypeRules.Constant.Basic
import TypeRules.Operator

/-!
# Folding constants

An operator on untyped constants yields a new constant.  Two constants of
integer form are folded exactly over 128 bits.  As soon as one operand of
`+ - * /` has floating form the operation is done in double precision, while
the bitwise operators, `%` and the shifts take the integer values of integral
operands whatever their form.  Where an operator needs integral operands and
does not have them, folding does not apply.
-/

namespace TypeRules

/-- Why folding two or one constants yields no constant. -/
inductive FoldFailure where
  /-- The value of the expression cannot be held. -/
  | overflow (expression : String)
  /-- The divisor is zero. -/
  | divisionByZero
  /-- The shift count is not a non-negative integer. -/
  | invalidShiftCount (count : String)
  deriving DecidableEq

namespace BinaryOp

/-- Why an operation on integers has no value. -/
inductive Undefined where
  | outOfRange
  | zeroDivisor
  deriving DecidableEq

/-- A value that cannot be held is out of range. -/
def held : Option Int128 → Except Undefined Int128
  | some value => .ok value
  | none => .error .outOfRange

/-- The operator on integers; a shift takes its count from the right operand. -/
def onIntegers (op : BinaryOp) (left right : Int128) :
    Except Undefined Int128 :=
  match op with
  | add => held (left.add? right)
  | sub => held (left.sub? right)
  | mul => held (left.mul? right)
  | div =>
      if right.toInt = 0 then .error .zeroDivisor else held (left.div? right)
  | rem =>
      if right.toInt = 0 then .error .zeroDivisor else held (left.rem? right)
  | bitAnd => .ok (left.and right)
  | bitOr => .ok (left.or right)
  | bitXor => .ok (left.xor right)
  | bitClear => .ok (left.andNot right)
  | shiftLeft => held (left.shiftLeft? right.toInt.toNat)
  | shiftRight => .ok (left.shiftRight right.toInt.toNat)

/-- The operation in double precision, for the operators that have one. -/
def onDoubles? : BinaryOp → Option (Binary64 → Binary64 → Binary64)
  | add => some Binary64.add
  | sub => some Binary64.sub
  | mul => some Binary64.mul
  | div => some Binary64.div
  | _ => none

end BinaryOp

namespace Constant

/-- The expression of a binary operation as a diagnostic shows it. -/
def expression (op : BinaryOp) (left right : Constant) : String :=
  left.text ++ " " ++ op.token ++ " " ++ right.text

/-- Fold two constants by their integer values. -/
def foldIntegers (op : BinaryOp) (left right : Constant) :
    Except FoldFailure Constant :=
  match op.onIntegers left.toInt128 right.toInt128 with
  | .ok value => .ok (ofInt128 value)
  | .error .outOfRange => .error (.overflow (expression op left right))
  | .error .zeroDivisor => .error .divisionByZero

/-- Fold two constants in double precision. -/
def foldDoubles (op : BinaryOp)
    (operation : Binary64 → Binary64 → Binary64)
    (left right : Constant) : Except FoldFailure Constant :=
  if op = .div ∧ right.toBinary64.isZero then .error .divisionByZero
  else
    match ofBinary64? (operation left.toBinary64 right.toBinary64) with
    | some constant => .ok constant
    | none => .error (.overflow (expression op left right))

/-- Fold two constants, or `none` where folding does not apply. -/
def fold? (op : BinaryOp) (left right : Constant) :
    Option (Except FoldFailure Constant) :=
  match op.onDoubles? with
  | some operation =>
      if left.isExactInteger && right.isExactInteger then
        some (foldIntegers op left right)
      else some (foldDoubles op operation left right)
  | none =>
      if !left.isIntegral then none
      else if op.isShift then
        if right.isIntegral && 0 ≤ right.toInt128.toInt then
          some (foldIntegers op left right)
        else some (.error (.invalidShiftCount right.text))
      else if right.isIntegral then some (foldIntegers op left right)
      else none

/-- Negate a constant in its own form. -/
def negate (constant : Constant) : Except FoldFailure Constant :=
  let negated :=
    if constant.isExactInteger then constant.toInt128.neg?.map ofInt128
    else ofBinary64? constant.toBinary64.neg
  match negated with
  | some result => .ok result
  | none => .error (.overflow ("-" ++ constant.text))

end Constant

end TypeRules
