import Mathlib.Data.List.Basic
import Mathlib.Data.List.TakeWhile
import TypeRules.Proofs.Separators

/-!
# Literals that announce a radix

A literal announces the radix of its digits with its first characters: `0x`,
`0o`, `0b`, or a zero before further octal digits.  `Announces` says so of a
plain text, whatever stands behind the first three.  A text of this sort either
is refused or denotes the number that its digits spell in the radix announced.

The decimal reader, to which everything is left that is no integer literal, is
what could read the digits in another radix.  A prefix with a letter stops it.
A leading zero does not: it is an ordinary decimal digit.  So octal digits that
stand behind a leading zero and spell a number beyond the words are read once
more, in radix ten.
-/

namespace TypeRules

/-! ## What the decimal reader makes of digits and letters -/

namespace Decimal

theorem read?_of_isDigit {digits : List Char} (nonempty : digits ≠ [])
    (figures : ∀ digit ∈ digits, digit.isDigit = true) :
    read? digits = some ⟨digitsValue digits, 0⟩ := by
  have all : digits.takeWhile Char.isDigit = digits :=
    List.takeWhile_eq_self_iff.mpr figures
  have none : digits.dropWhile Char.isDigit = [] :=
    List.dropWhile_eq_nil_iff.mpr figures
  have split : splitDigits digits = (digits, [], []) := by
    simp only [splitDigits, all, none]
  simp [read?, split, nonempty, readExponent?]

/-- Behind a zero the reader stops at a character that is not of a decimal. -/
theorem read?_zero_cons {mark : Char} (noDigit : mark.isDigit = false)
    (noPoint : mark ≠ '.') (noPower : mark ≠ 'e' ∧ mark ≠ 'E')
    (rest : List Char) : read? ('0' :: mark :: rest) = none := by
  have whole : ('0' :: mark :: rest).takeWhile Char.isDigit = ['0'] := by
    rw [List.takeWhile_cons_of_pos (by decide),
      List.takeWhile_cons_of_neg (by simp [noDigit])]
  have left : ('0' :: mark :: rest).dropWhile Char.isDigit = mark :: rest := by
    rw [List.dropWhile_cons_of_pos (by decide),
      List.dropWhile_cons_of_neg (by simp [noDigit])]
  have split :
      splitDigits ('0' :: mark :: rest) = (['0'], [], mark :: rest) := by
    rw [splitDigits, whole, left]
    split
    · next found => exact (noPoint (List.cons.inj found).1).elim
    · rfl
  have refused : readExponent? (mark :: rest) = none := by
    simp [readExponent?, noPower]
  simp [read?, split, refused]

theorem digitsValue_map {values : List Nat}
    (small : ∀ value ∈ values, value < 10) :
    digitsValue (values.map Nat.digitChar) =
      Nat.ofDigits 10 values.reverse := by
  rw [← Literal.foldl_eq_ofDigits, digitsValue, List.foldl_map]
  apply List.foldl_ext
  intro sofar value member
  rw [digitValue, Nat.toNat_digitChar_of_lt_ten (small value member)]
  simp

end Decimal

namespace Literal

/-! ## Announced radices -/

/-- A plain text announces a radix and has the given digits behind it. -/
inductive Announces : List Char → Nat → List Char → Prop where
  | hexadecimal (digits : List Char) :
      Announces ('0' :: 'x' :: digits) 16 digits
  | octal (digits : List Char) : Announces ('0' :: 'o' :: digits) 8 digits
  | binary (digits : List Char) : Announces ('0' :: 'b' :: digits) 2 digits
  /-- Only octal digits, at least one of them, stand behind a leading zero. -/
  | leadingZero {digits : List Char} {number : Nat}
      (spells : Spells 8 digits number) : Announces ('0' :: digits) 8 digits

namespace Announces

variable {text digits : List Char} {radix : Nat}

theorem splitRadix_eq (announces : Announces text radix digits) :
    splitRadix text = (radix, digits) := by
  cases announces with
  | hexadecimal | octal | binary => rfl
  | leadingZero spells => exact splitRadix_leadingZero spells

theorem unsigned_iff_spells (announces : Announces text radix digits)
    {number : Nat} : Unsigned text number ↔ Spells radix digits number := by
  rw [unsigned_iff, announces.splitRadix_eq]

theorem exists_zero (announces : Announces text radix digits) :
    ∃ rest, text = Nat.digitChar 0 :: rest := by
  cases announces <;> exact ⟨_, rfl⟩

theorem radix_of_zero (announces : Announces text radix digits)
    (zero : text = '0' :: digits) : radix = 8 := by
  cases announces with
  | octal | leadingZero => rfl
  | hexadecimal | binary =>
      exact (List.cons_ne_self _ _ (List.cons.inj zero).2).elim

/-- A radix is announced by a letter, or else by the leading zero alone. -/
theorem letter_or_zero (announces : Announces text radix digits) :
    (∃ letter ∈ ['x', 'o', 'b'], text = '0' :: letter :: digits) ∨
      text = '0' :: digits ∧ ∃ number, Spells radix digits number := by
  cases announces with
  | hexadecimal => exact Or.inl ⟨'x', by simp, rfl⟩
  | octal => exact Or.inl ⟨'o', by simp, rfl⟩
  | binary => exact Or.inl ⟨'b', by simp, rfl⟩
  | leadingZero spells => exact Or.inr ⟨rfl, _, spells⟩

end Announces

section Readers

variable {text rest digits : List Char} {negative : Bool}

/-- The integer reader keeps to the radix announced. -/
theorem readInteger?_of_announces {radix : Nat}
    (signed : Signed text negative rest)
    (announces : Announces (plain rest) radix digits) {value : Int128} :
    readInteger? text = some value ↔
      ∃ number, Spells radix digits number ∧ number < Int128.bound ∧
        value.toInt = if negative then -(number : Int) else number := by
  rcases announces.exists_zero with ⟨more, starts⟩
  rw [readInteger?_eq_some_iff, splitSign_of_digit signed starts]
  simp only [announces.unsigned_iff_spells]

theorem readInteger?_eq_none_of_announces {radix : Nat}
    (signed : Signed text negative rest)
    (announces : Announces (plain rest) radix digits) :
    readInteger? text = none ↔
      ∀ number, Spells radix digits number → Int128.bound ≤ number := by
  constructor
  · intro refused number spells
    by_contra small
    have range :
        Int128.InRange (if negative then -(number : Int) else number) := by
      rw [Int128.InRange]
      split_ifs <;> omega
    have read := (readInteger?_of_announces signed announces).mpr
      ⟨number, spells, Nat.not_le.mp small, Int128.toInt_ofInt range⟩
    rw [refused] at read
    cases read
  · intro beyond
    rw [Option.eq_none_iff_forall_ne_some]
    intro value read
    rcases (readInteger?_of_announces signed announces).mp read with
      ⟨number, spells, small, -⟩
    exact Nat.not_lt.mpr (beyond number spells) small

/-- The decimal reader takes off the same sign as the integer reader. -/
theorem readFloating?_of_digit {value : Nat}
    (signed : Signed text negative rest)
    (starts : plain rest = Nat.digitChar value :: digits) :
    readFloating? text =
      ((Decimal.read? (withoutSeparators rest)).map
        (Decimal.toBinary64 negative)).filter Binary64.isFinite := by
  have visible : ¬ HidesSign text := by
    intro hidden
    cases signed with
    | minus | plus => cases hidden.1
    | none => exact hidden.plain_ne value digits starts
  rw [readFloating?, Binary64.read?, splitSign_withoutSeparators visible,
    splitSign_of_digit signed starts]

/-! ## Characters before they are lowered -/

/-- A letter is not lowered to a figure. -/
theorem eq_of_isDigit_toLower {char : Char}
    (figure : char.toLower.isDigit = true) : char.toLower = char := by
  revert figure
  unfold Char.toLower
  split
  · next capital =>
      intro figure
      have lower : 65 ≤ char.val.toNat := UInt32.le_iff_toNat_le.mp capital.1
      have upper : char.val.toNat ≤ 90 := UInt32.le_iff_toNat_le.mp capital.2
      have step : ('a'.val - 'A'.val).toNat = 32 := rfl
      have last : '9'.toNat = 57 := rfl
      have bound := (Char.isDigit_iff_toNat.mp figure).2
      rw [Char.toNat_mk, UInt32.toNat_add, step, last] at bound
      omega
  · intro _
    rfl

theorem withoutSeparators_eq_plain
    (figures : ∀ char ∈ plain text, char.isDigit = true) :
    withoutSeparators text = plain text := by
  have unchanged :
      (withoutSeparators text).map Char.toLower =
        (withoutSeparators text).map id :=
    List.map_congr_left fun char member =>
      eq_of_isDigit_toLower (figures _ (List.mem_map_of_mem member))
  rw [plain, unchanged, List.map_id]

/-- A letter that announces a radix, large or small, is not of a decimal. -/
theorem not_decimal_of_toLower {mark : Char}
    (letter : mark.toLower ∈ ['x', 'o', 'b']) :
    mark.isDigit = false ∧ mark ≠ '.' ∧ mark ≠ 'e' ∧ mark ≠ 'E' := by
  refine ⟨?_, ?_, ?_, ?_⟩
  · rw [Bool.eq_false_iff]
    intro figure
    rw [toLower_of_isDigit figure] at letter
    simp only [List.mem_cons, List.not_mem_nil, or_false] at letter
    rcases letter with rfl | rfl | rfl <;> cases figure
  all_goals
    rintro rfl
    revert letter
    decide

/-- Behind a prefix with a letter there is nothing for the decimal reader. -/
theorem readFloating?_of_letter (signed : Signed text negative rest)
    {letter : Char} (listed : letter ∈ ['x', 'o', 'b'])
    (starts : plain rest = '0' :: letter :: digits) :
    readFloating? text = none := by
  rcases List.map_eq_cons_iff.mp starts with
    ⟨zero, afterZero, cleaned, zeroLowered, more⟩
  rcases List.map_eq_cons_iff.mp more with ⟨mark, tail, rfl, rfl, -⟩
  have same : zero = '0' := by
    rw [← zeroLowered]
    exact (eq_of_isDigit_toLower (by rw [zeroLowered]; rfl)).symm
  rcases not_decimal_of_toLower listed with ⟨noDigit, noPoint, noPower⟩
  have refused : Decimal.read? (withoutSeparators rest) = none := by
    rw [cleaned, same]
    exact Decimal.read?_zero_cons noDigit noPoint noPower tail
  have begins : plain rest = Nat.digitChar 0 :: mark.toLower :: digits := starts
  rw [readFloating?_of_digit signed begins, refused]
  rfl

/-! ## Octal digits read in radix ten -/

/--
Octal digits behind a leading zero that spell a number beyond the words are read
in radix ten, as a constant of floating form.
-/
theorem leadingZero_read_in_ten {number : Nat}
    (signed : Signed text negative rest)
    (zero : plain rest = '0' :: digits) (spells : Spells 8 digits number)
    (beyond : Int128.bound ≤ number) :
    ∃ decimal, Spells 10 digits decimal ∧
      read? text =
        ((some (Decimal.toBinary64 negative ⟨decimal, 0⟩)).filter
          Binary64.isFinite).map .floating := by
  have announces : Announces (plain rest) 8 digits := by
    rw [zero]
    exact .leadingZero spells
  have refused : readInteger? text = none := by
    apply (readInteger?_eq_none_of_announces signed announces).mpr
    intro other otherSpells
    rwa [otherSpells.unique (by decide) spells]
  rcases spells with ⟨values, nonempty, inside, rfl, rfl⟩
  have small : ∀ value ∈ 0 :: values, value < 10 := by
    rw [List.forall_mem_cons]
    exact ⟨by decide, fun value member =>
      (inside value member).trans (by decide)⟩
  have spelled : plain rest = (0 :: values).map Nat.digitChar := zero
  have figures : ∀ char ∈ plain rest, char.isDigit = true := by
    rw [spelled, List.forall_mem_map]
    intro value member
    rw [Nat.isDigit_digitChar]
    exact decide_eq_true (small value member)
  have decimal :
      Decimal.read? (withoutSeparators rest) =
        some ⟨Nat.ofDigits 10 values.reverse, 0⟩ := by
    rw [withoutSeparators_eq_plain figures,
      Decimal.read?_of_isDigit (by simp [spelled]) figures, spelled,
      Decimal.digitsValue_map small]
    simp [Nat.ofDigits_append]
  refine ⟨_, ⟨values, nonempty, ?_, rfl, rfl⟩, ?_⟩
  · exact (List.forall_mem_cons.mp small).2
  · rw [read?, refused, readFloating?_of_digit signed spelled, decimal]
    rfl

end Readers

/-! ## Outcomes -/

/-- What is read in floating form is neither refused nor of integer form. -/
theorem literal_of_floating {text : String} {double : Binary64}
    (read : read? text.toList = some (.floating double)) (arena : Arena) :
    arena.literal text ≠ (.error (.invalidLiteral text), arena) ∧
      ∀ value, arena.literal text ≠
        Arena.made (arena.constant ⟨text, .integer value⟩) := by
  rw [Arena.literal_of_read? read arena]
  constructor
  · exact Arena.made_ne_error
  · intro value same
    cases Arena.constant_inj same

/--
A literal that announces a radix is read in that radix, with one exception.
Behind an optional sign and apart from separators and capitals, the text begins
with `0x`, `0o` or `0b`, or is a zero before octal digits.  It is refused if its
digits spell no number in the radix announced, or one of `2 ^ 127` or more.
Otherwise it denotes that number with its sign, in integer form.  The exception
is made for octal digits behind a leading zero alone: they may spell a number of
`2 ^ 127` or more, and yet one within the range of doubles in radix ten.
-/
theorem radix_literal_keeps_radix (arena : Arena) {text : String}
    {negative : Bool} {rest digits : List Char} {radix : Nat}
    (signed : Signed text.toList negative rest)
    (announces :
      Announces ((rest.filter (· ≠ '_')).map Char.toLower) radix digits) :
    (((∀ number, Spells radix digits number → 2 ^ 127 ≤ number) ∧
          arena.literal text = (.error (.invalidLiteral text), arena)) ∨
        ∃ (number : Nat) (value : Int128),
          Spells radix digits number ∧
            value.toInt = (if negative then -(number : Int) else number) ∧
            arena.literal text =
              Arena.made (arena.constant ⟨text, .integer value⟩)) ↔
      ¬ ((rest.filter (· ≠ '_')).map Char.toLower = '0' :: digits ∧
        ∃ number decimal, Spells radix digits number ∧ 2 ^ 127 ≤ number ∧
          Spells 10 digits decimal ∧
          (Decimal.toBinary64 negative ⟨decimal, 0⟩).isFinite = true) := by
  constructor
  · rintro kept ⟨zero, number, decimal, spells, beyond, inTen, finite⟩
    cases announces.radix_of_zero zero
    rcases leadingZero_read_in_ten signed zero spells beyond with
      ⟨other, otherSpells, read⟩
    rw [otherSpells.unique (by decide) inTen, Option.filter_some,
      if_pos finite] at read
    have floating := literal_of_floating read arena
    rcases kept with ⟨-, refused⟩ | ⟨-, value, -, -, integer⟩
    · exact floating.1 refused
    · exact floating.2 value integer
  · intro regular
    cases read : readInteger? text.toList with
    | some value =>
        rcases (readInteger?_of_announces signed announces).mp read with
          ⟨number, spells, -, same⟩
        have found : read? text.toList = some (.integer value) := by
          rw [read?, read]
        exact Or.inr ⟨number, value, spells, same,
          Arena.literal_of_read? found arena⟩
    | none =>
        have beyond :=
          (readInteger?_eq_none_of_announces signed announces).mp read
        refine Or.inl ⟨beyond, Arena.literal_of_read?_eq_none ?_ arena⟩
        rcases announces.letter_or_zero with
          ⟨letter, listed, starts⟩ | ⟨zero, number, spells⟩
        · rw [read?, read, readFloating?_of_letter signed listed starts]
          rfl
        · cases announces.radix_of_zero zero
          rcases leadingZero_read_in_ten signed zero spells
              (beyond number spells) with
            ⟨decimal, inTen, found⟩
          have infinite :
              ¬ (Decimal.toBinary64 negative ⟨decimal, 0⟩).isFinite = true := by
            intro finite
            exact regular ⟨zero, number, decimal, spells,
              beyond number spells, inTen, finite⟩
          rw [found, Option.filter_some, if_neg infinite]
          rfl

/-- The octal digits of the greatest word. -/
def greatestOctal : List Char :=
  "1777777777777777777777777777777777777777777".toList

/-- The octal digits of the first number beyond the words. -/
def beyondOctal : List Char :=
  "2000000000000000000000000000000000000000000".toList

theorem spells_greatestOctal : Spells 8 greatestOctal (2 ^ 127 - 1) :=
  (digitsIn?_eq_some_iff (by decide)).mp (by decide +kernel)

theorem spells_beyondOctal : Spells 8 beyondOctal (2 ^ 127) :=
  (digitsIn?_eq_some_iff (by decide)).mp (by decide +kernel)

/-- Octal digits that spell a number beyond the doubles even in radix ten. -/
def endlessOctal : List Char :=
  List.replicate 400 '7'

theorem spells_endlessOctal : Spells 8 endlessOctal (8 ^ 400 - 1) :=
  (digitsIn?_eq_some_iff (by decide)).mp (by decide +kernel)

theorem radix_literal_keeps_radix_words :
    let greatest := String.ofList ('-' :: '0' :: '_' :: greatestOctal)
    let beyond := String.ofList ('0' :: 'O' :: beyondOctal)
    let endless := String.ofList ('0' :: endlessOctal)
    (∃ value : Int128,
        value.toInt = -(2 ^ 127 - 1) ∧
          Arena.initial.literal greatest =
            Arena.made
              (Arena.initial.constant ⟨greatest, .integer value⟩)) ∧
      Arena.initial.literal beyond =
        (.error (.invalidLiteral beyond), .initial) ∧
      Arena.initial.literal endless =
        (.error (.invalidLiteral endless), .initial) := by
  intro greatest beyond endless
  refine ⟨?_, ?_, ?_⟩
  · have signed :
        Signed greatest.toList true ('0' :: '_' :: greatestOctal) := by
      rw [String.toList_ofList]
      exact .minus _
    have cleaned :
        (('0' :: '_' :: greatestOctal).filter (· ≠ '_')).map Char.toLower =
          '0' :: greatestOctal := by
      decide +kernel
    have announces :
        Announces
          ((('0' :: '_' :: greatestOctal).filter (· ≠ '_')).map Char.toLower)
          8 greatestOctal := by
      rw [cleaned]
      exact .leadingZero spells_greatestOctal
    have held :
        ∀ number, Spells 8 greatestOctal number → ¬ 2 ^ 127 ≤ number := by
      intro number spells
      rw [spells.unique (by decide) spells_greatestOctal]
      decide
    rcases (radix_literal_keeps_radix .initial signed announces).mpr
        (fun ⟨_, number, _, spells, large, _⟩ => held number spells large) with
      ⟨none, -⟩ | ⟨number, value, spells, same, read⟩
    · exact absurd (none _ spells_greatestOctal) (by decide)
    · rw [spells.unique (by decide) spells_greatestOctal] at same
      exact ⟨value, same, read⟩
  · have signed : Signed beyond.toList false ('0' :: 'O' :: beyondOctal) := by
      rw [String.toList_ofList]
      exact .none _
    have cleaned :
        (('0' :: 'O' :: beyondOctal).filter (· ≠ '_')).map Char.toLower =
          '0' :: 'o' :: beyondOctal := by
      decide +kernel
    have announces :
        Announces
          ((('0' :: 'O' :: beyondOctal).filter (· ≠ '_')).map Char.toLower)
          8 beyondOctal := by
      rw [cleaned]
      exact .octal beyondOctal
    have letter :
        (('0' :: 'O' :: beyondOctal).filter (· ≠ '_')).map Char.toLower ≠
          '0' :: beyondOctal := by
      decide +kernel
    rcases (radix_literal_keeps_radix .initial signed announces).mpr
        (fun exception => letter exception.1) with
      ⟨-, refused⟩ | ⟨number, value, spells, same, -⟩
    · exact refused
    · rw [spells.unique (by decide) spells_beyondOctal] at same
      exact absurd value.inRange_toInt (by rw [same]; decide)
  · have signed : Signed endless.toList false ('0' :: endlessOctal) := by
      rw [String.toList_ofList]
      exact .none _
    have cleaned :
        (('0' :: endlessOctal).filter (· ≠ '_')).map Char.toLower =
          '0' :: endlessOctal := by
      decide +kernel
    have announces :
        Announces
          ((('0' :: endlessOctal).filter (· ≠ '_')).map Char.toLower)
          8 endlessOctal := by
      rw [cleaned]
      exact .leadingZero spells_endlessOctal
    have inTen : Spells 10 endlessOctal (7 * (10 ^ 400 / 9)) :=
      (digitsIn?_eq_some_iff (by decide)).mp (by decide +kernel)
    have infinite :
        ∀ decimal, Spells 10 endlessOctal decimal →
          ¬ (Decimal.toBinary64 false ⟨decimal, 0⟩).isFinite = true := by
      intro decimal spells
      rw [spells.unique (by decide) inTen]
      decide +kernel
    rcases (radix_literal_keeps_radix .initial signed announces).mpr
        (fun ⟨_, _, decimal, _, _, spells, finite⟩ =>
          infinite decimal spells finite) with
      ⟨-, refused⟩ | ⟨number, value, spells, same, -⟩
    · exact refused
    · rw [spells.unique (by decide) spells_endlessOctal] at same
      exact absurd value.inRange_toInt (by rw [same]; decide +kernel)

/--
The octal digits of `2 ^ 127` behind a leading zero are not refused but read in
radix ten.
-/
theorem beyondOctal_read_in_ten :
    read? ('0' :: beyondOctal) =
        some (.floating (Decimal.toBinary64 false ⟨2 * 10 ^ 42, 0⟩)) ∧
      ¬ ∀ (arena : Arena) (text : String) (negative : Bool)
        (rest digits : List Char) (radix : Nat),
        Signed text.toList negative rest →
        Announces ((rest.filter (· ≠ '_')).map Char.toLower) radix digits →
        arena.literal text = (.error (.invalidLiteral text), arena) ∨
          ∃ (number : Nat) (value : Int128),
            Spells radix digits number ∧
              value.toInt = (if negative then -(number : Int) else number) ∧
              arena.literal text =
                Arena.made (arena.constant ⟨text, .integer value⟩) := by
  have cleaned : plain ('0' :: beyondOctal) = '0' :: beyondOctal := by
    decide +kernel
  have inTen : Spells 10 beyondOctal (2 * 10 ^ 42) :=
    (digitsIn?_eq_some_iff (by decide)).mp (by decide +kernel)
  have read :
      read? ('0' :: beyondOctal) =
        some (.floating (Decimal.toBinary64 false ⟨2 * 10 ^ 42, 0⟩)) := by
    rcases leadingZero_read_in_ten (.none _) cleaned spells_beyondOctal
        (Nat.le_refl _) with
      ⟨decimal, spells, found⟩
    rw [found, spells.unique (by decide) inTen]
    decide +kernel
  refine ⟨read, ?_⟩
  intro kept
  have listed :
      (String.ofList ('0' :: beyondOctal)).toList = '0' :: beyondOctal :=
    String.toList_ofList
  have signed :
      Signed (String.ofList ('0' :: beyondOctal)).toList false
        ('0' :: beyondOctal) := by
    rw [listed]
    exact .none _
  have announces : Announces (plain ('0' :: beyondOctal)) 8 beyondOctal := by
    rw [cleaned]
    exact .leadingZero spells_beyondOctal
  rw [← listed] at read
  have floating := literal_of_floating read .initial
  rcases kept .initial _ _ _ _ _ signed announces with
    refused | ⟨-, value, -, -, integer⟩
  · exact floating.1 refused
  · exact floating.2 value integer

end Literal

end TypeRules
