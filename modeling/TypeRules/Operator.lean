/-!
# Operators

The binary and unary operators of the checked language with their tokens.  A
token may name both a binary and a unary operator.
-/

namespace TypeRules

/-- The binary operators. -/
inductive BinaryOp where
  | add
  | sub
  | mul
  | div
  | rem
  | bitAnd
  | bitOr
  | bitXor
  | bitClear
  | shiftLeft
  | shiftRight
  deriving DecidableEq

/-- The unary operators. -/
inductive UnaryOp where
  | plus
  | minus
  | not
  | bitNot
  | deref
  | addressOf
  deriving DecidableEq

namespace BinaryOp

/-- Every binary operator. -/
def all : List BinaryOp :=
  [add, sub, mul, div, rem, bitAnd, bitOr, bitXor, bitClear, shiftLeft,
    shiftRight]

/-- How the operator is written. -/
def token : BinaryOp → String
  | add => "+"
  | sub => "-"
  | mul => "*"
  | div => "/"
  | rem => "%"
  | bitAnd => "&"
  | bitOr => "|"
  | bitXor => "^"
  | bitClear => "&^"
  | shiftLeft => "<<"
  | shiftRight => ">>"

/-- The binary operator that is written with a token. -/
def ofToken? (text : String) : Option BinaryOp :=
  all.find? (·.token == text)

/-- Whether the right operand counts places rather than being combined. -/
def isShift : BinaryOp → Bool
  | shiftLeft | shiftRight => true
  | _ => false

end BinaryOp

namespace UnaryOp

/-- Every unary operator. -/
def all : List UnaryOp :=
  [plus, minus, not, bitNot, deref, addressOf]

/-- How the operator is written. -/
def token : UnaryOp → String
  | plus => "+"
  | minus => "-"
  | not => "!"
  | bitNot => "^"
  | deref => "*"
  | addressOf => "&"

/-- The unary operator that is written with a token. -/
def ofToken? (text : String) : Option UnaryOp :=
  all.find? (·.token == text)

end UnaryOp

end TypeRules
