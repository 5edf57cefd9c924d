import TypeRules.Binary64.Basic

/-!
# The shortest decimal that reads back

A double stands for every real number that rounds to it: an interval around
its value, with its ends exactly when the significand is even.  Among the
decimals `digits * 10 ^ exponent` in that interval, `shortest` takes the
greatest exponent there is, and with that exponent the decimal nearest to the
value, the greater of two that are equally near.

For each exponent only the two neighbours of the value on that decimal grid
matter: if any point of the grid lies in the interval, one of them does.  The
digits of the result never end in zero, because such a decimal lies on the
next coarser grid as well.
-/

namespace TypeRules

/-- The decimal `digits * 10 ^ exponent`. -/
structure Decimal where
  /-- The significant digits, read as one number. -/
  digits : Nat
  /-- The power of ten of the last digit. -/
  exponent : Int
  deriving DecidableEq

namespace Decimal

/--
The reals that round to one double, in a unit that makes the ends and the
value integers.
-/
structure Interval where
  /-- The lower end. -/
  low : Nat
  /-- The value of the double itself. -/
  value : Nat
  /-- The upper end. -/
  high : Nat
  /-- Whether the ends belong to the interval. -/
  closed : Bool
  /-- The unit is two to this power. -/
  unit : Int

/--
The interval of a finite double other than zero, in quarters of its last
place.  Below a power of two the doubles lie twice as close, which halves the
lower part.
-/
def Interval.ofBinary64 (number : Binary64) : Interval :=
  let significand := number.significand
  let narrow := number.fraction = 0 ∧ 1 < number.exponentField
  { low := 4 * significand - (if narrow then 1 else 2)
    value := 4 * significand
    high := 4 * significand + 2
    closed := significand % 2 = 0
    unit := number.exponent - 2 }

/-- Whether a point, in the unit of the interval, lies in it. -/
def Interval.holds (interval : Interval) (scale point : Nat) : Bool :=
  if interval.closed then
    interval.low * scale ≤ point ∧ point ≤ interval.high * scale
  else
    interval.low * scale < point ∧ point < interval.high * scale

/--
The nearest multiple of `10 ^ exponent` in the interval, as a multiplier.  The
ends of the interval are scaled by `scale` and the steps of the grid by `step`
to make both integers.
-/
def nearestOnGrid? (interval : Interval) (exponent : Int) : Option Nat :=
  let scale := Nat.pow 2 interval.unit.toNat * Nat.pow 10 (-exponent).toNat
  let step := Nat.pow 2 (-interval.unit).toNat * Nat.pow 10 exponent.toNat
  let value := interval.value * scale
  let below := value / step
  match interval.holds scale (below * step),
      interval.holds scale ((below + 1) * step) with
  | true, true =>
      if (2 * below + 1) * step ≤ 2 * value then some (below + 1)
      else some below
  | true, false => some below
  | false, true => some (below + 1)
  | false, false => none

/--
The decimal exponents of the grids to try, from the coarsest to the finest.
No double reaches `10 ^ 309`, and each is a multiple of `10 ^ (-1074)`.
-/
def gridExponents : List Int :=
  (List.range 1384).map fun (index : Nat) => 309 - (index : Int)

/-- The shortest decimal that reads back as the given finite magnitude. -/
def shortest (number : Binary64) : Decimal :=
  let interval := Interval.ofBinary64 number
  let found := gridExponents.findSome? fun exponent =>
    (nearestOnGrid? interval exponent).map fun digits =>
      (⟨digits, exponent⟩ : Decimal)
  found.getD ⟨0, 0⟩

end Decimal

end TypeRules
