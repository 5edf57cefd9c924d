/-!
# Double-precision numbers by their bits

A number is kept as the 64 bits of its representation: one sign bit, eleven
exponent bits and fifty-two fraction bits.  A finite number is a significand
times a power of two, and `numerator` over `denominator` is its magnitude as a
quotient of natural numbers.  Everything that is asked of a number is answered
from these exact integers.
-/

namespace TypeRules

/-- A double-precision number. -/
structure Binary64 where
  /-- Sign, exponent and fraction, the sign in the highest place. -/
  bits : UInt64
  deriving DecidableEq

namespace Binary64

/-- The bit that marks a negative number. -/
def signBit : Nat :=
  Nat.pow 2 63

/--
The lowest bit of the exponent.  It is also the leading bit of a significand,
which the fraction of a normal number leaves out.
-/
def leadingBit : Nat :=
  Nat.pow 2 52

/-- The exponent bits of everything that is not finite. -/
def topExponent : Nat :=
  2047

/-- The bits of positive infinity: the first magnitude that is not finite. -/
def infinityBits : Nat :=
  topExponent * leadingBit

/-- Whether the sign bit is set; this tells the two zeros apart. -/
def negative (number : Binary64) : Bool :=
  signBit ≤ number.bits.toNat

/-- The eleven exponent bits. -/
def exponentField (number : Binary64) : Nat :=
  number.bits.toNat / leadingBit % 2048

/-- The fifty-two fraction bits. -/
def fraction (number : Binary64) : Nat :=
  number.bits.toNat % leadingBit

/-- Whether the bits denote a number, and not an infinity or the lack of one. -/
def isFinite (number : Binary64) : Bool :=
  number.exponentField ≠ topExponent

/-- Whether the bits denote no number at all. -/
def isNaN (number : Binary64) : Bool :=
  number.exponentField = topExponent ∧ number.fraction ≠ 0

/--
The integer that the magnitude of a finite number multiplies a power of two
by.  Subnormal numbers lack the leading bit.
-/
def significand (number : Binary64) : Nat :=
  if number.exponentField = 0 then number.fraction
  else leadingBit + number.fraction

/-- The exponent of the power of two that belongs to the significand. -/
def exponent (number : Binary64) : Int :=
  max number.exponentField 1 - 1075

/-- Whether the magnitude of a finite number is zero. -/
def isZero (number : Binary64) : Bool :=
  number.significand = 0

/-- The magnitude of a finite number, times its `denominator`. -/
def numerator (number : Binary64) : Nat :=
  number.significand * Nat.pow 2 number.exponent.toNat

/-- A power of two that makes the magnitude of a finite number an integer. -/
def denominator (number : Binary64) : Nat :=
  Nat.pow 2 (-number.exponent).toNat

/-- Give a magnitude the sign of a number. -/
def withSign (negative : Bool) (magnitude : Nat) : Int :=
  if negative then -magnitude else magnitude

/-- Whether a finite number is an integer. -/
def isInteger (number : Binary64) : Bool :=
  number.numerator % number.denominator = 0

/-- A finite number rounded toward zero. -/
def truncate (number : Binary64) : Int :=
  withSign number.negative (number.numerator / number.denominator)

/-- The number with its sign turned. -/
def neg (number : Binary64) : Binary64 :=
  ⟨number.bits ^^^ 0x8000000000000000⟩

end Binary64

end TypeRules
