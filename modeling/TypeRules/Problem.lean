import TypeRules.Constant.Fold
import TypeRules.Span

/-!
# Problems and diagnostics

A problem is the reason why a check fails.  While rules are decided it refers
to types; in a diagnostic it holds their spellings, together with the place it
was found at.  `Problem.message` is the one place where problems are put into
words.
-/

namespace TypeRules

/-- Why a check fails, where `τ` stands for the types that are involved. -/
inductive Problem (τ : Type) where
  /-- A value of one type cannot be stored in a location of another. -/
  | incompatible (source dest : τ)
  /-- An integral constant lies outside of the range of an integer type. -/
  | overflows (constant : String) (dest : τ)
  /-- A constant that is not integral is stored in an integer type. -/
  | truncated (constant : String) (dest : τ)
  /-- Two lists of types to be assigned differ in length. -/
  | lengthMismatch (dests sources : Nat)
  /-- The operands of a binary operator do not go together. -/
  | mismatchedOperands (left right : τ)
  /-- An operator is not defined on the type of its operand. -/
  | operatorOnType (operator : String) (operand : τ)
  /-- An operator is not defined on the types of its operands. -/
  | operatorOnTypes (operator : String) (left right : τ)
  /-- A call passes more arguments than there are parameters. -/
  | tooManyArguments (params args : Nat)
  /-- A call passes fewer arguments than there are parameters. -/
  | tooFewArguments (params args : Nat)
  /-- What is called is not a function. -/
  | notCallable (callee : τ)
  /-- Constants could not be folded. -/
  | folding (failure : FoldFailure)

namespace Problem

/-- Replace the types of a problem, from left to right. -/
def mapM {τ σ : Type} {m : Type → Type} [Monad m] (spell : τ → m σ) :
    Problem τ → m (Problem σ)
  | incompatible source dest =>
      return incompatible (← spell source) (← spell dest)
  | overflows constant dest => return overflows constant (← spell dest)
  | truncated constant dest => return truncated constant (← spell dest)
  | lengthMismatch dests sources => return lengthMismatch dests sources
  | mismatchedOperands left right =>
      return mismatchedOperands (← spell left) (← spell right)
  | operatorOnType operator operand =>
      return operatorOnType operator (← spell operand)
  | operatorOnTypes operator left right =>
      return operatorOnTypes operator (← spell left) (← spell right)
  | tooManyArguments params args => return tooManyArguments params args
  | tooFewArguments params args => return tooFewArguments params args
  | notCallable callee => return notCallable (← spell callee)
  | folding failure => return folding failure

/-- The sentence that explains a problem. -/
def message : Problem String → String
  | incompatible source dest =>
      "Type '" ++ source ++ "' is incompatible with '" ++ dest ++ "'."
  | overflows constant dest =>
      "Untyped number (" ++ constant ++ ") overflows '" ++ dest ++ "'."
  | truncated constant dest =>
      "Untyped number (" ++ constant ++
        ") is truncated when assigned to '" ++ dest ++ "'."
  | lengthMismatch dests sources =>
      "Assignment mismatch: " ++ toString dests ++ " variables but " ++
        toString sources ++ " values."
  | mismatchedOperands left right =>
      "Left hand side ('" ++ left ++
        "') cannot be assigned right hand side ('" ++ right ++ "')."
  | operatorOnType operator operand =>
      "Operator '" ++ operator ++ "' cannot be used on type '" ++ operand ++
        "'."
  | operatorOnTypes operator left right =>
      "Operator '" ++ operator ++ "' cannot be used on types '" ++ left ++
        "' and '" ++ right ++ "'."
  | tooManyArguments params args =>
      "Too many arguments in function call: expected " ++ toString params ++
        ", but got " ++ toString args ++ "."
  | tooFewArguments params args =>
      "Too few arguments in function call: expected " ++ toString params ++
        ", but got " ++ toString args ++ "."
  | notCallable callee =>
      "Value of type '" ++ callee ++ "' is not callable."
  | folding (.overflow expression) =>
      "Constant '" ++ expression ++ "' overflows."
  | folding .divisionByZero => "Division by zero."
  | folding (.invalidShiftCount count) =>
      "Invalid shift count '" ++ count ++ "'."

end Problem

/-- A problem, its types spelled, at the place it was found. -/
structure Diagnostic where
  /-- What is wrong. -/
  problem : Problem String
  /-- Where it was found. -/
  span : Span

/-- The sentence that explains a diagnostic. -/
def Diagnostic.message (diagnostic : Diagnostic) : String :=
  diagnostic.problem.message

end TypeRules
