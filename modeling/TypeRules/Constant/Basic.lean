import TypeRules.Int128
import TypeRules.Decimal.Layout
import TypeRules.Binary64.Rounding

/-!
# Untyped constants

A numeric constant has no type of its own: its context decides one.  It keeps
the text it was written with and a value in one of two forms.  The form is not
the same as integrality, since `2.0` is an integral constant of floating form.
-/

namespace TypeRules

/-- The value of an untyped constant, in integer or in floating form. -/
inductive Constant.Value where
  | integer (value : Int128)
  | floating (value : Binary64)
  deriving DecidableEq

/-- A numeric constant whose concrete type is decided by its context. -/
structure Constant where
  /-- The text it was written with, or the text of a computed value. -/
  text : String
  /-- What the text stands for. -/
  value : Constant.Value
  deriving DecidableEq

namespace Constant

/-- The constant of integer form that a computation yields. -/
def ofInt128 (value : Int128) : Constant :=
  ⟨value.text, .integer value⟩

/-- The constant of floating form that a computation yields, if it is finite. -/
def ofBinary64? (value : Binary64) : Option Constant :=
  if value.isFinite then some ⟨value.text, .floating value⟩ else none

/-- Whether the constant was written, or computed, in floating form. -/
def isFloating (constant : Constant) : Bool :=
  match constant.value with
  | .integer _ => false
  | .floating _ => true

/--
Whether the value is an integer that 128 bits and a sign can hold.  The test
of a floating value leaves out the magnitude `2 ^ 127` on both sides.
-/
def isIntegral (constant : Constant) : Bool :=
  match constant.value with
  | .integer _ => true
  | .floating value =>
      value.isInteger && value.numerator < Int128.bound * value.denominator

/-- Whether the value is an integer and does not have floating form. -/
def isExactInteger (constant : Constant) : Bool :=
  constant.isIntegral && !constant.isFloating

/-- The value rounded toward zero, and to the nearest end of the range. -/
def toInt128 (constant : Constant) : Int128 :=
  match constant.value with
  | .integer value => value
  | .floating value => .saturate value.truncate

/-- The value rounded to the nearest double. -/
def toBinary64 (constant : Constant) : Binary64 :=
  match constant.value with
  | .integer value => .ofInt value.toInt
  | .floating value => value

end Constant

end TypeRules
