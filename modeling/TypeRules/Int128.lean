/-!
# Integers of 128 bits

Integer constants are held in two's complement with 128 bits.  Arithmetic is
done on the unbounded integers and brought back by `ofInt?`, which refuses a
value that 128 bits cannot hold.  Bitwise operations act on the bits.
-/

namespace TypeRules

/-- A signed integer of 128 bits. -/
structure Int128 where
  /-- The two's complement representation. -/
  toBitVec : BitVec 128
  deriving DecidableEq

namespace Int128

/-- The integer that the bits denote. -/
def toInt (value : Int128) : Int :=
  value.toBitVec.toInt

/-- The first positive integer that 128 bits cannot hold. -/
def bound : Nat :=
  Nat.pow 2 127

/-- The integers that 128 bits can hold. -/
def InRange (value : Int) : Prop :=
  -bound ≤ value ∧ value < bound

instance (value : Int) : Decidable (InRange value) :=
  inferInstanceAs (Decidable (_ ∧ _))

/-- The least representable integer. -/
def least : Int :=
  -bound

/-- The greatest representable integer. -/
def greatest : Int :=
  bound - 1

/-- Represent an integer, if 128 bits can hold it. -/
def ofInt? (value : Int) : Option Int128 :=
  if InRange value then some ⟨BitVec.ofInt 128 value⟩ else none

/-- Represent the nearest integer that 128 bits can hold. -/
def saturate (value : Int) : Int128 :=
  ⟨BitVec.ofInt 128 (max least (min greatest value))⟩

theorem inRange_toInt (value : Int128) : InRange value.toInt := by
  have lower := value.toBitVec.le_toInt
  have upper := value.toBitVec.toInt_lt
  exact ⟨by simpa [toInt, bound] using lower,
    by simpa [toInt, bound] using upper⟩

theorem toInt_ofInt {value : Int} (range : InRange value) :
    (BitVec.ofInt 128 value).toInt = value := by
  simp only [InRange, bound, Nat.pow_eq] at range
  rw [BitVec.toInt_ofInt]
  apply Int.bmod_eq_of_le <;> omega

theorem toInt_inj {left right : Int128} :
    left.toInt = right.toInt ↔ left = right := by
  cases left
  cases right
  simp [toInt, BitVec.toInt_inj]

/-- The represented integers are exactly those in range, unchanged. -/
theorem ofInt?_eq_some_iff {value : Int} {result : Int128} :
    ofInt? value = some result ↔ result.toInt = value := by
  constructor
  · intro found
    unfold ofInt? at found
    split at found
    · next range =>
        cases found
        exact toInt_ofInt range
    · cases found
  · rintro rfl
    have range := result.inRange_toInt
    simp only [ofInt?, range, if_true, Option.some.injEq]
    exact toInt_inj.mp (toInt_ofInt range)

theorem ofInt?_eq_none_iff {value : Int} :
    ofInt? value = none ↔ ¬ InRange value := by
  unfold ofInt?
  split <;> simp_all

@[simp]
theorem ofInt?_toInt (value : Int128) : ofInt? value.toInt = some value :=
  ofInt?_eq_some_iff.mpr rfl

/-! ## Arithmetic that may leave the range -/

/-- The sum, if it can be held. -/
def add? (left right : Int128) : Option Int128 :=
  ofInt? (left.toInt + right.toInt)

/-- The difference, if it can be held. -/
def sub? (left right : Int128) : Option Int128 :=
  ofInt? (left.toInt - right.toInt)

/-- The product, if it can be held. -/
def mul? (left right : Int128) : Option Int128 :=
  ofInt? (left.toInt * right.toInt)

/-- The quotient, rounded toward zero, if it can be held. -/
def div? (left right : Int128) : Option Int128 :=
  ofInt? (left.toInt.tdiv right.toInt)

/--
The remainder of the quotient rounded toward zero.  Quotient and remainder
come from one division, so there is no remainder where the quotient cannot be
held.
-/
def rem? (left right : Int128) : Option Int128 :=
  (left.div? right).bind fun _ => ofInt? (left.toInt.tmod right.toInt)

/-- The negated value, if it can be held. -/
def neg? (value : Int128) : Option Int128 :=
  ofInt? (-value.toInt)

/--
The value times the given power of two, if it can be held.  Zero stays zero
under every shift; any other value leaves the range after 128 places.
-/
def shiftLeft? (value : Int128) (count : Nat) : Option Int128 :=
  if value.toInt = 0 then some value
  else if 128 ≤ count then none
  else ofInt? (value.toInt * Nat.pow 2 count)

/-! ## Operations on the bits -/

/--
The value divided by the given power of two, rounded down.  From 128 places
on only the sign is left.
-/
def shiftRight (value : Int128) (count : Nat) : Int128 :=
  ⟨value.toBitVec.sshiftRight (min count 128)⟩

/-- The bits set in both values. -/
def and (left right : Int128) : Int128 :=
  ⟨left.toBitVec &&& right.toBitVec⟩

/-- The bits set in either value. -/
def or (left right : Int128) : Int128 :=
  ⟨left.toBitVec ||| right.toBitVec⟩

/-- The bits set in exactly one of the values. -/
def xor (left right : Int128) : Int128 :=
  ⟨left.toBitVec ^^^ right.toBitVec⟩

/-- Every bit flipped. -/
def complement (value : Int128) : Int128 :=
  ⟨~~~value.toBitVec⟩

/-- The bits set in the left value and not in the right one. -/
def andNot (left right : Int128) : Int128 :=
  left.and right.complement

/-- The decimal digits of the value, behind a minus sign if it is negative. -/
def text (value : Int128) : String :=
  toString value.toInt

end Int128

end TypeRules
