import TypeRules.Binary64.Rounding

/-!
# Arithmetic in double precision

Each operation on finite numbers is the exact operation on their values,
rounded once.  An exact zero has no sign of its own, so the operation gives it
one: a sum of zero is negative only if both terms are, and a zero product or
quotient has the sign that the rule of signs gives.
-/

namespace TypeRules.Binary64

/-- The exact sum of two finite numbers, times both denominators. -/
def sumNumerator (left right : Binary64) : Int :=
  withSign left.negative (left.numerator * right.denominator) +
    withSign right.negative (right.numerator * left.denominator)

/-- The rounded sum of two finite numbers. -/
def add (left right : Binary64) : Binary64 :=
  let sum := sumNumerator left right
  if sum = 0 then zero (left.negative && right.negative)
  else
    ofQuotient (decide (sum < 0)) sum.natAbs
      (left.denominator * right.denominator)

/-- The rounded difference of two finite numbers. -/
def sub (left right : Binary64) : Binary64 :=
  left.add right.neg

/-- The rounded product of two finite numbers. -/
def mul (left right : Binary64) : Binary64 :=
  ofQuotient (left.negative != right.negative)
    (left.numerator * right.numerator)
    (left.denominator * right.denominator)

/-- The rounded quotient of two finite numbers, the second not zero. -/
def div (left right : Binary64) : Binary64 :=
  ofQuotient (left.negative != right.negative)
    (left.numerator * right.denominator)
    (left.denominator * right.numerator)

end TypeRules.Binary64
