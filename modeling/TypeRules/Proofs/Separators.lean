import TypeRules.Arena.Construct
import TypeRules.Proofs.IntegerLiterals

/-!
# Separators in literals

Separators are there for the eye.  A literal and the same literal without its
separators are read as the same number, in the same form, or neither of them is
a literal.

There is one place where a separator makes a difference.  Before a sign it hides
the sign from the integer reader, which takes a sign off first and separators
later, but not from the decimal reader, which takes separators off first.  So an
integer literal with a separator before its sign is read as a decimal, if it can
be, and a leading zero no longer announces a radix there.
-/

namespace TypeRules

/-! ## Outcomes of reading a literal -/

namespace Arena

theorem literal_of_read? {text : String} {value : Constant.Value}
    (found : Literal.read? text.toList = some value) (arena : Arena) :
    arena.literal text = made (arena.constant ⟨text, value⟩) := by
  rw [literal, Constant.ofLiteral?, found]
  rfl

theorem literal_of_read?_eq_none {text : String}
    (refused : Literal.read? text.toList = none) (arena : Arena) :
    arena.literal text = (.error (.invalidLiteral text), arena) := by
  rw [literal, Constant.ofLiteral?, refused]
  rfl

end Arena

/-- Two constants agree in form and value and in all that is asked of them. -/
structure Constant.SameNumber (left right : Constant) : Prop where
  value : left.value = right.value
  integral : left.isIntegral = right.isIntegral
  floating : left.isFloating = right.isFloating
  exactInteger : left.isExactInteger = right.isExactInteger

theorem Constant.SameNumber.of_value {left right : Constant}
    (same : left.value = right.value) : left.SameNumber right := by
  have integral : left.isIntegral = right.isIntegral := by
    rw [isIntegral, isIntegral, same]
  have floating : left.isFloating = right.isFloating := by
    rw [isFloating, isFloating, same]
  refine ⟨same, integral, floating, ?_⟩
  rw [isExactInteger, isExactInteger, integral, floating]

/-- Both texts are refused as literals, or both denote the same number. -/
inductive Arena.ReadsAlike (arena : Arena) (left right : String) : Prop where
  | refused
      (leftRefused :
        arena.literal left = (.error (.invalidLiteral left), arena))
      (rightRefused :
        arena.literal right = (.error (.invalidLiteral right), arena)) :
      ReadsAlike arena left right
  | accepted {leftConstant rightConstant : Constant}
      (leftAccepted :
        arena.literal left = made (arena.constant leftConstant))
      (rightAccepted :
        arena.literal right = made (arena.constant rightConstant))
      (same : leftConstant.SameNumber rightConstant) :
      ReadsAlike arena left right

namespace Arena

theorem made_ne_error {result : Ty × Arena} {error : ConstructionError}
    {arena : Arena} : made result ≠ (.error error, arena) := by
  intro equal
  cases congrArg Prod.fst equal

theorem constant_inj {arena : Arena} {left right : Constant}
    (same : made (arena.constant left) = made (arena.constant right)) :
    left = right := by
  have types : (arena.constant left).1 = (arena.constant right).1 :=
    Except.ok.inj (congrArg Prod.fst same)
  exact Kind.untyped.inj (congrArg Ty.kind types)

/-- Texts are read alike exactly if the reader gives the same for both. -/
theorem readsAlike_iff {arena : Arena} {left right : String} :
    arena.ReadsAlike left right ↔
      Literal.read? left.toList = Literal.read? right.toList := by
  cases leftRead : Literal.read? left.toList with
  | none =>
      have leftRefused := literal_of_read?_eq_none leftRead arena
      cases rightRead : Literal.read? right.toList with
      | none =>
          exact iff_of_true
            (.refused leftRefused (literal_of_read?_eq_none rightRead arena))
            rfl
      | some value =>
          have rightMade := literal_of_read? rightRead arena
          refine iff_of_false ?_ (by simp)
          rintro (⟨-, rightRefused⟩ | ⟨leftAccepted, -, -⟩)
          · exact made_ne_error (rightMade.symm.trans rightRefused)
          · exact made_ne_error (leftAccepted.symm.trans leftRefused)
  | some leftValue =>
      have leftMade := literal_of_read? leftRead arena
      cases rightRead : Literal.read? right.toList with
      | none =>
          have rightRefused := literal_of_read?_eq_none rightRead arena
          refine iff_of_false ?_ (by simp)
          rintro (⟨leftRefused, -⟩ | ⟨-, rightAccepted, -⟩)
          · exact made_ne_error (leftMade.symm.trans leftRefused)
          · exact made_ne_error (rightAccepted.symm.trans rightRefused)
      | some rightValue =>
          have rightMade := literal_of_read? rightRead arena
          rw [Option.some.injEq]
          constructor
          · rintro (⟨leftRefused, -⟩ | ⟨leftAccepted, rightAccepted, same⟩)
            · exact (made_ne_error (leftMade.symm.trans leftRefused)).elim
            · cases constant_inj (leftMade.symm.trans leftAccepted)
              cases constant_inj (rightMade.symm.trans rightAccepted)
              exact same.value
          · intro same
            exact .accepted leftMade rightMade (.of_value same)

end Arena

/-! ## Separators and signs -/

namespace Literal

@[simp]
theorem withoutSeparators_idem (text : List Char) :
    withoutSeparators (withoutSeparators text) = withoutSeparators text := by
  simp [withoutSeparators]

@[simp]
theorem plain_withoutSeparators (text : List Char) :
    plain (withoutSeparators text) = plain text := by
  simp [plain]

theorem withoutSeparators_cons {char : Char} (proper : char ≠ separator)
    (text : List Char) :
    withoutSeparators (char :: text) = char :: withoutSeparators text :=
  List.filter_cons_of_pos (decide_eq_true proper)

/-- The text begins with separators, and a sign stands behind them. -/
def HidesSign (text : List Char) : Prop :=
  text.head? = some separator ∧
    ((withoutSeparators text).head? = some '-' ∨
      (withoutSeparators text).head? = some '+')

theorem splitSign_eq_self {text : List Char} (noMinus : text.head? ≠ some '-')
    (noPlus : text.head? ≠ some '+') :
    Decimal.splitSign text = (false, text) := by
  fun_cases Decimal.splitSign text with
  | case1 | case2 => simp at noMinus noPlus
  | case3 => rfl

/-- A sign that is not hidden is taken off before separators or after them. -/
theorem splitSign_withoutSeparators {text : List Char}
    (visible : ¬ HidesSign text) :
    Decimal.splitSign (withoutSeparators text) =
      ((Decimal.splitSign text).1,
        withoutSeparators (Decimal.splitSign text).2) := by
  fun_cases Decimal.splitSign text with
  | case1 rest =>
      rw [withoutSeparators_cons (by decide)]
      rfl
  | case2 rest =>
      rw [withoutSeparators_cons (by decide)]
      rfl
  | case3 text noMinus noPlus =>
      have first :
          (withoutSeparators text).head? ≠ some '-' ∧
            (withoutSeparators text).head? ≠ some '+' := by
        by_cases separated : text.head? = some separator
        · exact not_or.mp fun sign => visible ⟨separated, sign⟩
        · cases text with
          | nil => simp [withoutSeparators]
          | cons char text =>
              rw [withoutSeparators_cons (by simpa using separated)]
              simp_all
      exact splitSign_eq_self first.1 first.2

theorem readInteger?_withoutSeparators {text : List Char}
    (visible : ¬ HidesSign text) :
    readInteger? (withoutSeparators text) = readInteger? text := by
  rw [readInteger?_eq_bind, readInteger?_eq_bind,
    splitSign_withoutSeparators visible, plain_withoutSeparators]

theorem readFloating?_withoutSeparators (text : List Char) :
    readFloating? (withoutSeparators text) = readFloating? text := by
  rw [readFloating?, withoutSeparators_idem, readFloating?]

/-- A text that hides a sign does not begin with a digit, separators aside. -/
theorem HidesSign.plain_ne {text : List Char} (hidden : HidesSign text)
    (value : Nat) (digits : List Char) :
    plain text ≠ Nat.digitChar value :: digits := by
  intro starts
  have first : (plain text).head? = some value.digitChar := by
    rw [starts]
    rfl
  rw [plain, List.head?_map] at first
  rcases hidden.2 with minus | plus
  · rw [minus] at first
    exact Nat.digitChar_ne '-' rfl (Option.some.inj first).symm
  · rw [plus] at first
    exact Nat.digitChar_ne '+' rfl (Option.some.inj first).symm

/-- To the integer reader a hidden sign is a character that is no digit. -/
theorem readInteger?_of_hidesSign {text : List Char}
    (hidden : HidesSign text) : readInteger? text = none := by
  have whole : Decimal.splitSign text = (false, text) :=
    splitSign_eq_self (by simp [hidden.1, separator])
      (by simp [hidden.1, separator])
  rw [Option.eq_none_iff_forall_ne_some]
  intro value read
  rw [readInteger?_eq_some_iff, whole] at read
  rcases read with ⟨number, literal, -⟩
  rcases literal.exists_digitChar with ⟨digit, digits, starts⟩
  exact hidden.plain_ne digit digits starts

/-! ## Literals without their separators -/

theorem read?_withoutSeparators {text : List Char}
    (visible : ¬ HidesSign text) :
    read? (withoutSeparators text) = read? text := by
  rw [read?, read?, readInteger?_withoutSeparators visible,
    readFloating?_withoutSeparators]

theorem read?_of_hidesSign {text : List Char} (hidden : HidesSign text) :
    read? text = (readFloating? (withoutSeparators text)).map .floating := by
  rw [read?, readInteger?_of_hidesSign hidden, readFloating?_withoutSeparators]

theorem read?_eq_withoutSeparators_iff {text : List Char} :
    read? text = read? (withoutSeparators text) ↔
      ¬ (HidesSign text ∧
        ∃ value, readInteger? (withoutSeparators text) = some value) := by
  by_cases hidden : HidesSign text
  · rw [read?_of_hidesSign hidden, read?]
    cases readInteger? (withoutSeparators text) with
    | none => simp
    | some value =>
        cases readFloating? (withoutSeparators text) <;> simp [hidden]
  · simp [read?_withoutSeparators hidden, hidden]

/--
Separators carry no meaning, but for those before the sign of an integer
literal.  A text and the same text without its separators are refused as
literals or are read as constants of the same form and value, unless the text
begins with separators, a sign stands behind them, and without them the text is
an integer literal.
-/
theorem separators_carry_no_meaning (arena : Arena) (text : String) :
    arena.ReadsAlike text (String.ofList (text.toList.filter (· ≠ '_'))) ↔
      ¬ (HidesSign text.toList ∧
        ∃ value,
          readInteger? (text.toList.filter (· ≠ '_')) = some value) := by
  rw [Arena.readsAlike_iff, String.toList_ofList]
  exact read?_eq_withoutSeparators_iff

/--
A separator before the sign of an octal literal takes its form and changes its
value.
-/
theorem hidden_sign_misread :
    Constant.ofLiteral? "-017" = some ⟨"-017", .integer ⟨-15⟩⟩ ∧
      Constant.ofLiteral? "_-017" =
        some ⟨"_-017", .floating ⟨0xc031000000000000⟩⟩ ∧
      Binary64.truncate ⟨0xc031000000000000⟩ = -17 ∧
      ¬ ∀ (arena : Arena) (text : String),
        arena.ReadsAlike text
          (String.ofList (text.toList.filter (· ≠ '_'))) := by
  refine ⟨by decide +kernel, by decide +kernel, by decide +kernel, ?_⟩
  intro alike
  have same := Arena.readsAlike_iff.mp (alike .initial "_-017")
  exact absurd same (by decide +kernel)

end Literal

end TypeRules
