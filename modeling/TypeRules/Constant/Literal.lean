import TypeRules.Constant.Basic
import TypeRules.Decimal.Reader

/-!
# Number literals

A literal is read as an integer if it can be, and as a decimal in double
precision otherwise.  An integer literal is an optional sign and then, with
separators removed and letters lowered, digits in the radix that its first
characters announce: `0x`, `0o`, `0b`, or a leading `0` before further digits
for eight.  What is no integer literal, or is one beyond 128 bits, is read as
a decimal from the whole text with separators removed.
-/

namespace TypeRules

namespace Literal

/-- The character that may stand between digits. -/
def separator : Char :=
  '_'

/-- The text without separators. -/
def withoutSeparators (text : List Char) : List Char :=
  text.filter (· ≠ separator)

/-- The value of a digit, be it a figure or a small letter. -/
def digitValue? (digit : Char) : Option Nat :=
  if digit.isDigit then some (digit.toNat - '0'.toNat)
  else if 'a' ≤ digit ∧ digit ≤ 'f' then some (digit.toNat - 'a'.toNat + 10)
  else none

/-- The value of a digit in a radix. -/
def digitIn? (radix : Nat) (digit : Char) : Option Nat :=
  (digitValue? digit).filter (· < radix)

/-- The number that one or more digits spell in a radix. -/
def digitsIn? (radix : Nat) (digits : List Char) : Option Nat :=
  if digits.isEmpty then none
  else
    digits.foldlM
      (fun value digit => (digitIn? radix digit).map (radix * value + ·)) 0

/-- The radix that the first characters announce, and the digits behind them. -/
def splitRadix : List Char → Nat × List Char
  | '0' :: 'x' :: digits => (16, digits)
  | '0' :: 'o' :: digits => (8, digits)
  | '0' :: 'b' :: digits => (2, digits)
  | '0' :: digit :: digits => (8, digit :: digits)
  | digits => (10, digits)

/-- Read an integer literal whose magnitude is less than `2 ^ 127`. -/
def readInteger? (text : List Char) : Option Int128 := do
  let (negative, rest) := Decimal.splitSign text
  let (radix, digits) :=
    splitRadix ((withoutSeparators rest).map Char.toLower)
  let magnitude ← digitsIn? radix digits
  let value ← Int128.ofInt? magnitude
  if negative then value.neg? else some value

/-- Read a decimal literal whose nearest double is finite. -/
def readFloating? (text : List Char) : Option Binary64 :=
  (Binary64.read? (withoutSeparators text)).filter Binary64.isFinite

/-- Read a literal, as an integer before all else. -/
def read? (text : List Char) : Option Constant.Value :=
  match readInteger? text with
  | some value => some (.integer value)
  | none => (readFloating? text).map .floating

end Literal

/-- The constant that a literal denotes; it keeps the literal as its text. -/
def Constant.ofLiteral? (text : String) : Option Constant :=
  (Literal.read? text.toList).map fun value => ⟨text, value⟩

end TypeRules
