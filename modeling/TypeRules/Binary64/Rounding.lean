import TypeRules.Binary64.Basic

/-!
# Rounding a quotient to double precision

`ofQuotient` gives the double nearest to a quotient of natural numbers, a half
going to the even significand, and infinity where the nearest double would
need an exponent beyond the greatest.  Reading a decimal, converting an
integer and every arithmetic operation are an exact quotient followed by this
one rounding.
-/

namespace TypeRules.Binary64

/-- The integer nearest to a quotient, a half going to the even neighbour. -/
def roundHalfEven (numerator denominator : Nat) : Nat :=
  let quotient := numerator / denominator
  let remainder := numerator % denominator
  if 2 * remainder < denominator then quotient
  else if denominator < 2 * remainder then quotient + 1
  else quotient + quotient % 2

/-- The quotient divided by a power of two, again as a quotient. -/
def scaleDown (numerator denominator : Nat) (exponent : Int) : Nat × Nat :=
  (numerator * Nat.pow 2 (-exponent).toNat,
    denominator * Nat.pow 2 exponent.toNat)

/--
The exponent of the last place of the double nearest to a positive quotient.
In units of that place the quotient lies below twice the leading bit, and not
below the leading bit unless the place is already the least one there is.  The
logarithms of the two parts settle the exponent up to one, and one division
settles that.
-/
def placeExponent (numerator denominator : Nat) : Int :=
  let estimate := (numerator.log2 : Int) - denominator.log2 - 53
  let (scaledNumerator, scaledDenominator) :=
    scaleDown numerator denominator estimate
  let exponent :=
    if scaledNumerator / scaledDenominator < 2 * leadingBit then estimate
    else estimate + 1
  max exponent (-1074)

/--
The bits of the magnitude `significand * 2 ^ exponent`, where the significand
is at most twice the leading bit.  At twice the leading bit it carries into the
exponent by itself.
-/
def magnitudeBits (significand : Nat) (exponent : Int) : Nat :=
  if significand < leadingBit then significand
  else
    (exponent + 1075).toNat * leadingBit + (significand - leadingBit)

/-- The double with the given sign and magnitude bits, infinity at most. -/
def ofMagnitudeBits (negative : Bool) (magnitude : Nat) : Binary64 :=
  let magnitude := min magnitude infinityBits
  ⟨UInt64.ofNat (if negative then signBit + magnitude else magnitude)⟩

/-- The zero of the given sign. -/
def zero (negative : Bool) : Binary64 :=
  ofMagnitudeBits negative 0

/-- The double nearest to a quotient with the given sign. -/
def ofQuotient (negative : Bool) (numerator denominator : Nat) : Binary64 :=
  if numerator = 0 then zero negative
  else
    let exponent := placeExponent numerator denominator
    let (scaledNumerator, scaledDenominator) :=
      scaleDown numerator denominator exponent
    ofMagnitudeBits negative
      (magnitudeBits (roundHalfEven scaledNumerator scaledDenominator)
        exponent)

/-- The double nearest to an integer. -/
def ofInt (value : Int) : Binary64 :=
  ofQuotient (decide (value < 0)) value.natAbs 1

end TypeRules.Binary64
