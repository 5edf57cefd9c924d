import TypeRules.Binary64.Rounding
import TypeRules.Decimal.Shortest

/-!
# Reading a decimal

The text of a decimal is an optional sign, digits with at most one point among
or beside them, and an optional power of ten.  At least one digit has to stand
before the power of ten, and at least one in it.  The value is rounded once,
from the exact decimal to the nearest double.
-/

namespace TypeRules

namespace Decimal

/-- The value of a decimal digit. -/
def digitValue (digit : Char) : Nat :=
  digit.toNat - '0'.toNat

/-- The number that decimal digits spell. -/
def digitsValue (digits : List Char) : Nat :=
  digits.foldl (fun value digit => 10 * value + digitValue digit) 0

/-- Take an optional sign off the front: whether it was a minus, and the rest. -/
def splitSign : List Char → Bool × List Char
  | '-' :: rest => (true, rest)
  | '+' :: rest => (false, rest)
  | text => (false, text)

/--
The number that the digits of an exponent spell.  Once it has reached 65536,
which is far beyond every double, further digits are passed over.
-/
def exponentValue (digits : List Char) : Nat :=
  digits.foldl
    (fun value digit =>
      if value < 65536 then 10 * value + digitValue digit else value)
    0

/-- The power of ten at the end of a decimal; nothing stands for zero. -/
def readExponent? : List Char → Option Int
  | [] => some 0
  | mark :: rest =>
      let (negative, digits) := splitSign rest
      if (mark == 'e' || mark == 'E') && !digits.isEmpty &&
          digits.all Char.isDigit then
        let magnitude := exponentValue digits
        some (if negative then -(magnitude : Int) else magnitude)
      else none

/--
Split an unsigned decimal into the digits before the point, the digits behind
it and what follows.
-/
def splitDigits (text : List Char) : List Char × List Char × List Char :=
  let whole := text.takeWhile Char.isDigit
  match text.dropWhile Char.isDigit with
  | '.' :: rest =>
      (whole, rest.takeWhile Char.isDigit, rest.dropWhile Char.isDigit)
  | rest => (whole, [], rest)

/-- Read an unsigned decimal. -/
def read? (text : List Char) : Option Decimal := do
  let (whole, places, rest) := splitDigits text
  let digits := whole ++ places
  if digits.isEmpty then none
  else
    let exponent ← readExponent? rest
    some ⟨digitsValue digits, exponent - places.length⟩

/-- The double nearest to a decimal with the given sign. -/
def toBinary64 (negative : Bool) (decimal : Decimal) : Binary64 :=
  Binary64.ofQuotient negative
    (decimal.digits * Nat.pow 10 decimal.exponent.toNat)
    (Nat.pow 10 (-decimal.exponent).toNat)

end Decimal

/-- Read a decimal with an optional sign as the nearest double. -/
def Binary64.read? (text : List Char) : Option Binary64 :=
  let (negative, rest) := Decimal.splitSign text
  (Decimal.read? rest).map (Decimal.toBinary64 negative)

end TypeRules
