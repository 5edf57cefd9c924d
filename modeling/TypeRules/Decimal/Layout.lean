import TypeRules.Decimal.Shortest

/-!
# Writing a double as text

The digits are those of the shortest decimal that reads back.  Where they are
put is decided here: numbers from `10 ^ (-4)` up to but excluding `10 ^ 16`,
and zero, are written positionally with at least one place after the point;
all others in scientific notation, without a point behind a single digit and
without a plus sign in the exponent.
-/

namespace TypeRules

namespace Decimal

/-- A run of zeros. -/
def zeros (count : Nat) : List Char :=
  List.replicate count '0'

/--
The digits with the point after the first `point` of them, filled up with
zeros where the point lies outside of them.
-/
def positional (digits : List Char) (point : Int) : List Char :=
  if point ≤ 0 then
    ['0', '.'] ++ zeros (-point).toNat ++ digits
  else if digits.length ≤ point.toNat then
    digits ++ zeros (point.toNat - digits.length) ++ ['.', '0']
  else
    digits.take point.toNat ++ ['.'] ++ digits.drop point.toNat

/-- One digit before the point, the others behind it, and the exponent. -/
def scientific (digits : List Char) (exponent : Int) : List Char :=
  let behind := digits.drop 1
  digits.take 1 ++ (if behind.isEmpty then [] else '.' :: behind) ++
    'e' :: (toString exponent).toList

/-- A decimal other than zero in positional or scientific notation. -/
def layout (decimal : Decimal) : List Char :=
  let digits := (toString decimal.digits).toList
  let leading := decimal.exponent + digits.length - 1
  if -4 ≤ leading ∧ leading < 16 then positional digits (leading + 1)
  else scientific digits leading

end Decimal

/-- The text of a double; of two zeros the negative one keeps its sign. -/
def Binary64.text (number : Binary64) : String :=
  if number.isNaN then "NaN"
  else
    let magnitude :=
      if !number.isFinite then ['i', 'n', 'f']
      else if number.isZero then ['0', '.', '0']
      else (Decimal.shortest number).layout
    String.ofList (if number.negative then '-' :: magnitude else magnitude)

end TypeRules
