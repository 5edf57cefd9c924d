import Mathlib.Data.Nat.Digits.Defs
import Mathlib.Tactic.IntervalCases
import TypeRules.Proofs.Faults

/-!
# The grammar of integer literals

An integer literal is an optional sign and an unsigned literal, in which
separators and the case of letters do not count.  `Unsigned` lists the five
forms of an unsigned literal together with the number that each denotes.  Digits
are given by their values and written with `Nat.digitChar`; their number is the
one that `Nat.ofDigits` makes of them.

The main result is that reading an integer literal accepts exactly the texts of
this grammar whose number is less than `2 ^ 127`, and gives that number with its
sign.
-/

namespace TypeRules

namespace Literal

/-! ## Digits -/

/-- The characters are one or more digits in a radix and spell the number. -/
def Spells (radix : Nat) (digits : List Char) (number : Nat) : Prop :=
  ∃ values : List Nat,
    values ≠ [] ∧
      (∀ value ∈ values, value < radix) ∧
      digits = values.map Nat.digitChar ∧
      number = Nat.ofDigits radix values.reverse

theorem eq_digitChar_of_isDigit {digit : Char} (figure : digit.isDigit = true) :
    digit.toNat - '0'.toNat < 10 ∧
      digit = (digit.toNat - '0'.toNat).digitChar := by
  have bounds : 48 ≤ digit.toNat ∧ digit.toNat ≤ 57 :=
    Char.isDigit_iff_toNat.mp figure
  have code : '0'.toNat = 48 := rfl
  refine ⟨by omega, Char.toNat_inj.mp ?_⟩
  rw [Nat.toNat_digitChar_of_lt_ten (by omega)]
  omega

theorem eq_digitChar_of_letter {digit : Char}
    (letter : 'a' ≤ digit ∧ digit ≤ 'f') :
    digit.toNat - 'a'.toNat + 10 < 16 ∧
      digit = (digit.toNat - 'a'.toNat + 10).digitChar := by
  have lower : 97 ≤ digit.toNat := letter.1
  have upper : digit.toNat ≤ 102 := letter.2
  have code : 'a'.toNat = 97 := rfl
  refine ⟨by omega, Char.toNat_inj.mp ?_⟩
  rw [code]
  interval_cases digit.toNat <;> rfl

theorem digitValue?_eq_some_iff {digit : Char} {value : Nat} :
    digitValue? digit = some value ↔ value < 16 ∧ digit = value.digitChar := by
  constructor
  · intro found
    unfold digitValue? at found
    split_ifs at found with figure letter
    · cases found
      rcases eq_digitChar_of_isDigit figure with ⟨small, same⟩
      exact ⟨by omega, same⟩
    · cases found
      exact eq_digitChar_of_letter letter
  · rintro ⟨small, rfl⟩
    interval_cases value <;> decide

theorem digitIn?_eq_some_iff {radix : Nat} (small : radix ≤ 16) {digit : Char}
    {value : Nat} :
    digitIn? radix digit = some value ↔
      value < radix ∧ digit = value.digitChar := by
  rw [digitIn?, Option.filter_eq_some_iff, digitValue?_eq_some_iff,
    decide_eq_true_iff]
  constructor
  · rintro ⟨⟨-, same⟩, inside⟩
    exact ⟨inside, same⟩
  · rintro ⟨inside, same⟩
    exact ⟨⟨by omega, same⟩, inside⟩

/-- Each digit that is read onto a number moves it up by one place. -/
theorem foldlM_digitIn?_eq_some_iff {radix : Nat} (small : radix ≤ 16)
    {digits : List Char} {start number : Nat} :
    digits.foldlM
        (fun sofar digit => (digitIn? radix digit).map (radix * sofar + ·))
        start = some number ↔
      ∃ values : List Nat,
        (∀ value ∈ values, value < radix) ∧
          digits = values.map Nat.digitChar ∧
          number =
            values.foldl (fun sofar value => radix * sofar + value) start := by
  induction digits generalizing start with
  | nil =>
      rw [List.foldlM_nil]
      constructor
      · rintro ⟨⟩
        exact ⟨[], by simp⟩
      · rintro ⟨values, -, none, rfl⟩
        rw [List.map_eq_nil_iff.mp none.symm]
        rfl
  | cons digit digits inductionHypothesis =>
      rw [List.foldlM_cons, Option.bind_eq_bind, Option.bind_eq_some_iff]
      constructor
      · rintro ⟨next, first, later⟩
        rcases Option.map_eq_some_iff.mp first with ⟨value, found, rfl⟩
        rcases (digitIn?_eq_some_iff small).mp found with ⟨inside, rfl⟩
        rcases inductionHypothesis.mp later with
          ⟨values, allInside, rfl, rfl⟩
        refine ⟨value :: values, ?_, rfl, rfl⟩
        exact List.forall_mem_cons.mpr ⟨inside, allInside⟩
      · rintro ⟨values, allInside, spelled, rfl⟩
        rcases List.map_eq_cons_iff.mp spelled.symm with
          ⟨value, values, rfl, rfl, rfl⟩
        rw [List.forall_mem_cons] at allInside
        refine ⟨radix * start + value, ?_, ?_⟩
        · rw [(digitIn?_eq_some_iff small).mpr ⟨allInside.1, rfl⟩]
          rfl
        · exact inductionHypothesis.mpr ⟨values, allInside.2, rfl, rfl⟩

theorem foldl_eq_ofDigits (radix : Nat) (values : List Nat) :
    values.foldl (fun sofar value => radix * sofar + value) 0 =
      Nat.ofDigits radix values.reverse := by
  rw [Nat.ofDigits_eq_foldr, List.foldr_reverse]
  simp only [Nat.cast_id, Nat.add_comm]

theorem digitsIn?_eq_some_iff {radix : Nat} (small : radix ≤ 16)
    {digits : List Char} {number : Nat} :
    digitsIn? radix digits = some number ↔ Spells radix digits number := by
  unfold digitsIn? Spells
  split_ifs with empty
  · rw [List.isEmpty_iff] at empty
    simp [empty]
  · rw [foldlM_digitIn?_eq_some_iff small]
    simp only [foldl_eq_ofDigits]
    constructor
    · rintro ⟨values, allInside, rfl, rfl⟩
      exact ⟨values, by simpa using empty, allInside, rfl, rfl⟩
    · rintro ⟨values, -, spelled⟩
      exact ⟨values, spelled⟩

theorem Spells.unique {radix : Nat} (small : radix ≤ 16) {digits : List Char}
    {number other : Nat} (spells : Spells radix digits number)
    (otherSpells : Spells radix digits other) : number = other := by
  rw [← digitsIn?_eq_some_iff small] at spells otherSpells
  exact Option.some.inj (spells.symm.trans otherSpells)

/-! ## Unsigned literals -/

/--
An unsigned literal, without separators and in small letters, and the number
that it denotes.
-/
inductive Unsigned : List Char → Nat → Prop where
  | hexadecimal {digits : List Char} {number : Nat}
      (spells : Spells 16 digits number) :
      Unsigned ('0' :: 'x' :: digits) number
  | octal {digits : List Char} {number : Nat}
      (spells : Spells 8 digits number) :
      Unsigned ('0' :: 'o' :: digits) number
  | binary {digits : List Char} {number : Nat}
      (spells : Spells 2 digits number) :
      Unsigned ('0' :: 'b' :: digits) number
  | leadingZero {digits : List Char} {number : Nat}
      (spells : Spells 8 digits number) :
      Unsigned ('0' :: digits) number
  | decimal {digits : List Char} {number : Nat}
      (spells : Spells 10 digits number)
      (leading : digits = ['0'] ∨ digits.head? ≠ some '0') :
      Unsigned digits number

theorem Spells.ne_nil {radix : Nat} {digits : List Char} {number : Nat}
    (spells : Spells radix digits number) : digits ≠ [] := by
  rcases spells with ⟨values, nonempty, -, rfl, -⟩
  simpa using nonempty

theorem Spells.exists_digitChar {radix : Nat} {digits : List Char}
    {number : Nat} (spells : Spells radix digits number) {digit : Char}
    (member : digit ∈ digits) : ∃ value < radix, digit = value.digitChar := by
  rcases spells with ⟨values, -, inside, rfl, -⟩
  rcases List.mem_map.mp member with ⟨value, listed, rfl⟩
  exact ⟨value, inside value listed, rfl⟩

theorem splitRadix_leadingZero {digits : List Char} {number : Nat}
    (spells : Spells 8 digits number) :
    splitRadix ('0' :: digits) = (8, digits) := by
  cases digits with
  | nil => exact absurd rfl spells.ne_nil
  | cons digit digits =>
      rcases spells.exists_digitChar List.mem_cons_self with
        ⟨value, inside, rfl⟩
      rw [splitRadix]
      · exact Nat.digitChar_ne 'x' rfl
      · exact Nat.digitChar_ne 'o' rfl
      · intro isB
        rw [Nat.digitChar_eq_b] at isB
        omega

theorem splitRadix_decimal {digits : List Char}
    (leading : digits = ['0'] ∨ digits.head? ≠ some '0') :
    splitRadix digits = (10, digits) := by
  fun_cases splitRadix digits with
  | case1 | case2 | case3 | case4 => simp at leading
  | case5 => rfl

/-- Unsigned literals are those whose digits fit the radix they announce. -/
theorem unsigned_iff {text : List Char} {number : Nat} :
    Unsigned text number ↔
      Spells (splitRadix text).1 (splitRadix text).2 number := by
  constructor
  · intro literal
    cases literal with
    | hexadecimal spells | octal spells | binary spells => exact spells
    | leadingZero spells =>
        rw [splitRadix_leadingZero spells]
        exact spells
    | decimal spells leading =>
        rw [splitRadix_decimal leading]
        exact spells
  · fun_cases splitRadix text with
    | case1 digits => exact .hexadecimal
    | case2 digits => exact .octal
    | case3 digits => exact .binary
    | case4 digit digits _ _ _ => exact .leadingZero
    | case5 text _ _ _ longer =>
        intro spells
        refine .decimal spells ?_
        by_cases zero : text.head? = some '0'
        · rcases List.head?_eq_some_iff.mp zero with ⟨rest, rfl⟩
          cases rest with
          | nil => exact Or.inl rfl
          | cons next rest => exact (longer next rest rfl).elim
        · exact Or.inr zero

theorem splitRadix_fst_le (text : List Char) : (splitRadix text).1 ≤ 16 := by
  fun_cases splitRadix text <;> simp

theorem digitsIn?_splitRadix_eq_some_iff {text : List Char} {number : Nat} :
    digitsIn? (splitRadix text).1 (splitRadix text).2 = some number ↔
      Unsigned text number := by
  rw [digitsIn?_eq_some_iff (splitRadix_fst_le text), unsigned_iff]

/-! ## Signed literals -/

/-- The text as it is read: without separators and in small letters. -/
def plain (text : List Char) : List Char :=
  (withoutSeparators text).map Char.toLower

theorem toLower_of_isDigit {char : Char} (figure : char.isDigit = true) :
    char.toLower = char := by
  have noCapital : ¬ (65 ≤ char.toNat ∧ char.toNat ≤ 90) := by
    have upper : char.toNat ≤ 57 := (Char.isDigit_iff_toNat.mp figure).2
    omega
  exact dif_neg noCapital

/-- A text with at most one sign: whether it is a minus, and the rest. -/
inductive Signed : List Char → Bool → List Char → Prop where
  | minus (rest : List Char) : Signed ('-' :: rest) true rest
  | plus (rest : List Char) : Signed ('+' :: rest) false rest
  | none (text : List Char) : Signed text false text

theorem Unsigned.exists_digitChar {text : List Char} {number : Nat}
    (literal : Unsigned text number) :
    ∃ value rest, text = Nat.digitChar value :: rest := by
  cases literal with
  | hexadecimal | octal | binary | leadingZero => exact ⟨0, _, rfl⟩
  | decimal spells =>
      cases text with
      | nil => exact absurd rfl spells.ne_nil
      | cons digit digits =>
          rcases spells.exists_digitChar List.mem_cons_self with
            ⟨value, -, rfl⟩
          exact ⟨value, digits, rfl⟩

/-- What begins with a digit leaves no sign to be taken off. -/
theorem splitSign_of_digit {text rest digits : List Char} {negative : Bool}
    {value : Nat} (signed : Signed text negative rest)
    (starts : plain rest = Nat.digitChar value :: digits) :
    Decimal.splitSign text = (negative, rest) := by
  cases signed with
  | minus | plus => rfl
  | none =>
      fun_cases Decimal.splitSign text with
      | case1 rest =>
          exact (Nat.digitChar_ne '-' rfl (List.cons.inj starts).1.symm).elim
      | case2 rest =>
          exact (Nat.digitChar_ne '+' rfl (List.cons.inj starts).1.symm).elim
      | case3 => rfl

/-- A sign cannot be left to the digits. -/
theorem splitSign_of_signed {text rest : List Char} {negative : Bool}
    {number : Nat} (signed : Signed text negative rest)
    (literal : Unsigned (plain rest) number) :
    Decimal.splitSign text = (negative, rest) := by
  rcases literal.exists_digitChar with ⟨value, digits, starts⟩
  exact splitSign_of_digit signed starts

theorem signed_splitSign (text : List Char) :
    Signed text (Decimal.splitSign text).1 (Decimal.splitSign text).2 := by
  fun_cases Decimal.splitSign text with
  | case1 rest => exact .minus rest
  | case2 rest => exact .plus rest
  | case3 => exact .none text

/-- A number as a word, its sign put on last. -/
def signedWord? (negative : Bool) (number : Nat) : Option Int128 := do
  let value ← Int128.ofInt? number
  if negative then value.neg? else some value

theorem signedWord?_eq_some_iff {negative : Bool} {number : Nat}
    {value : Int128} :
    signedWord? negative number = some value ↔
      number < Int128.bound ∧
        value.toInt = if negative then -(number : Int) else number := by
  rw [signedWord?, Option.bind_eq_bind, Option.bind_eq_some_iff]
  constructor
  · rintro ⟨word, held, signed⟩
    rw [Int128.ofInt?_eq_some_iff] at held
    have range := word.inRange_toInt
    rw [held] at range
    refine ⟨by exact_mod_cast range.2, ?_⟩
    cases negative with
    | true =>
        rw [if_pos rfl, Int128.neg?, Int128.ofInt?_eq_some_iff, held] at signed
        exact signed
    | false =>
        cases signed
        exact held
  · rintro ⟨small, signed⟩
    have range : Int128.InRange number := ⟨by omega, by exact_mod_cast small⟩
    refine ⟨⟨BitVec.ofInt 128 number⟩, if_pos range, ?_⟩
    have held := Int128.toInt_ofInt range
    cases negative with
    | true =>
        rw [if_pos rfl, Int128.neg?, Int128.ofInt?_eq_some_iff, signed]
        exact congrArg (- ·) held.symm
    | false =>
        refine congrArg some (Int128.toInt_inj.mp ?_)
        exact held.trans signed.symm

/-- Only the sign and the plain rest of a text count. -/
theorem readInteger?_eq_bind (text : List Char) :
    readInteger? text =
      (digitsIn? (splitRadix (plain (Decimal.splitSign text).2)).1
        (splitRadix (plain (Decimal.splitSign text).2)).2).bind
          (signedWord? (Decimal.splitSign text).1) :=
  rfl

theorem readInteger?_eq_some_iff {text : List Char} {value : Int128} :
    readInteger? text = some value ↔
      ∃ number,
        Unsigned (plain (Decimal.splitSign text).2) number ∧
          number < Int128.bound ∧
          value.toInt =
            if (Decimal.splitSign text).1 then -(number : Int)
            else number := by
  rw [readInteger?_eq_bind, Option.bind_eq_some_iff]
  simp only [digitsIn?_splitRadix_eq_some_iff, signedWord?_eq_some_iff]

/--
Integer literals are read as the grammar says.  A text is accepted if and only
if it is an optional sign and then, without separators and in small letters, an
unsigned literal whose number is at most `2 ^ 127 - 1`; its value is that number,
negated behind a minus.
-/
theorem reader_follows_grammar (text : List Char) (value : Int128) :
    readInteger? text = some value ↔
      ∃ negative rest number,
        Signed text negative rest ∧
          Unsigned ((rest.filter (· ≠ '_')).map Char.toLower) number ∧
          number ≤ 2 ^ 127 - 1 ∧
          value.toInt = if negative then -(number : Int) else number := by
  rw [readInteger?_eq_some_iff]
  constructor
  · rintro ⟨number, literal, small, signed⟩
    exact ⟨_, _, number, signed_splitSign text, literal,
      Nat.le_sub_one_of_lt small, signed⟩
  · rintro ⟨negative, rest, number, signs, literal, small, signed⟩
    rw [splitSign_of_signed signs literal]
    exact ⟨number, literal, Nat.lt_of_le_sub_one (by decide) small, signed⟩

/- Texts that come close to a literal are refused. -/
example :
    readInteger? "-0X_fF".toList = some ⟨-255⟩ ∧
      readInteger? "+01_7".toList = some ⟨15⟩ ∧
      (["", "_", "+-5", "_-5", "0x", "0x_g", "08", "1e3", "٣"].map fun text =>
        readInteger? text.toList).all (· = none) = true := by
  decide

end Literal

end TypeRules
