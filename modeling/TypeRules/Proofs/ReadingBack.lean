import TypeRules.Proofs.FoldingFailures
import TypeRules.Proofs.IntegerLiterals
import TypeRules.Proofs.OperatorTyping

/-!
# Computed constants can be read back

A computed constant of integer form is spelled as the decimal number that it is.
That spelling is a literal, and reading it gives the constant again, with its
form and its value.  So it does not matter whether a client keeps a constant or
its spelling.

The least word is an exception.  Its magnitude is one beyond the greatest word,
and a literal is read as a magnitude before its sign is put on.  What is left is
to read it as a decimal, which gives a constant of floating form.
-/

namespace TypeRules

/-! ## Decimal digits -/

namespace Literal

theorem Spells.digit {radix value : Nat} (inside : value < radix) :
    Spells radix [value.digitChar] value :=
  ⟨[value], by simp, by simpa using inside, rfl, by simp⟩

theorem Spells.concat {radix : Nat} {digits : List Char} {number value : Nat}
    (spells : Spells radix digits number) (inside : value < radix) :
    Spells radix (digits ++ [value.digitChar]) (radix * number + value) := by
  rcases spells with ⟨values, -, allInside, rfl, rfl⟩
  refine ⟨values ++ [value], by simp, ?_, by simp, ?_⟩
  · simpa [or_imp, forall_and] using ⟨allInside, inside⟩
  · rw [List.reverse_append, List.reverse_singleton, List.singleton_append,
      Nat.ofDigits_cons, Nat.add_comm]

theorem spells_toDigits (number : Nat) :
    Spells 10 (Nat.toDigits 10 number) number := by
  induction number using Nat.strong_induction_on with
  | _ number inductionHypothesis =>
      rw [Nat.toDigits_eq_if (by decide)]
      split_ifs with single
      · exact .digit single
      · have front := inductionHypothesis (number / 10) (by omega)
        have whole := front.concat (Nat.mod_lt number (by decide : 10 > 0))
        rwa [Nat.div_add_mod] at whole

theorem head?_toDigits_ne_zero {number : Nat} (positive : 0 < number) :
    (Nat.toDigits 10 number).head? ≠ some '0' := by
  induction number using Nat.strong_induction_on with
  | _ number inductionHypothesis =>
      rw [Nat.toDigits_eq_if (by decide)]
      split_ifs with single
      · simpa using positive.ne'
      · rw [List.head?_append_of_ne_nil _ Nat.toDigits_ne_nil]
        exact inductionHypothesis (number / 10) (by omega) (by omega)

theorem unsigned_toDigits (number : Nat) :
    Unsigned (Nat.toDigits 10 number) number := by
  refine .decimal (spells_toDigits number) ?_
  rcases Nat.eq_zero_or_pos number with rfl | positive
  · exact Or.inl (Nat.toDigits_zero 10)
  · exact Or.inr (head?_toDigits_ne_zero positive)

/-- Figures are read as they are written. -/
theorem plain_of_isDigit {text : List Char}
    (figures : ∀ char ∈ text, char.isDigit = true) : plain text = text := by
  have separated : withoutSeparators text = text := by
    apply List.filter_eq_self.mpr
    intro char member
    rw [decide_eq_true_iff]
    rintro rfl
    cases figures _ member
  have lowered : text.map Char.toLower = text.map id :=
    List.map_congr_left fun char member =>
      toLower_of_isDigit (figures char member)
  rw [plain, separated, lowered, List.map_id]

end Literal

/-! ## The spelling of a word -/

theorem Int128.toList_text (value : Int128) :
    value.text.toList =
      (if value.toInt < 0 then ['-'] else []) ++
        Nat.toDigits 10 value.toInt.natAbs := by
  rw [text, Int.toString_eq_repr, Int.repr_eq_if]
  by_cases negative : value.toInt < 0
  · have magnitude : (-value.toInt).toNat = value.toInt.natAbs := by omega
    rw [if_neg (by omega), if_pos negative, String.toList_append,
      Nat.toList_repr, magnitude]
    rfl
  · have magnitude : value.toInt.toNat = value.toInt.natAbs := by omega
    rw [if_pos (by omega), if_neg negative, Nat.toList_repr, magnitude,
      List.nil_append]

namespace Literal

theorem signed_text (value : Int128) :
    Signed value.text.toList (value.toInt < 0)
      (Nat.toDigits 10 value.toInt.natAbs) := by
  rw [Int128.toList_text]
  by_cases negative : value.toInt < 0
  · rw [if_pos negative, decide_eq_true negative]
    exact .minus _
  · rw [if_neg negative, decide_eq_false negative]
    exact .none _

/-- The spelling of a word other than the least one is read as that word. -/
theorem readInteger?_text {value : Int128}
    (inner : value.toInt ≠ Int128.least) :
    readInteger? value.text.toList = some value := by
  have literal :
      Unsigned (plain (Nat.toDigits 10 value.toInt.natAbs))
        value.toInt.natAbs := by
    rw [plain_of_isDigit fun _ member =>
      Nat.isDigit_of_mem_toDigits (by decide) (by decide) member]
    exact unsigned_toDigits _
  have range := value.inRange_toInt
  rw [readInteger?_eq_some_iff,
    splitSign_of_signed (signed_text value) literal]
  refine ⟨_, literal, ?_, ?_⟩
  · simp only [Int128.InRange, Int128.least] at range inner
    omega
  · by_cases negative : value.toInt < 0
    · rw [decide_eq_true negative, if_pos rfl]
      omega
    · rw [decide_eq_false negative, if_neg Bool.false_ne_true]
      omega

end Literal

/-! ## The spelling of a computed constant -/

namespace Constant

/-- Reading the text of a constant makes the type of that very constant. -/
def ReadsBack (constant : Constant) : Prop :=
  ∀ arena : Arena,
    arena.literal constant.text = Arena.made (arena.constant constant)

/-- A constant of integer form is spelled as the decimal number that it is. -/
def IsDecimal (constant : Constant) : Prop :=
  ∀ value, constant.value = .integer value → constant.text = value.text

theorem readsBack_ofInt128 {value : Int128}
    (inner : value.toInt ≠ Int128.least) : (ofInt128 value).ReadsBack := by
  have read : ofLiteral? value.text = some (ofInt128 value) := by
    rw [ofLiteral?, Literal.read?, Literal.readInteger?_text inner]
    rfl
  intro arena
  rw [Arena.literal, ofInt128, read]
  rfl

theorem IsDecimal.readsBack {text : String} {value : Int128}
    (decimal : IsDecimal ⟨text, .integer value⟩)
    (inner : value.toInt ≠ Int128.least) :
    ReadsBack ⟨text, .integer value⟩ := by
  have spelled : text = value.text := decimal value rfl
  rw [spelled]
  exact readsBack_ofInt128 inner

theorem isDecimal_ofInt128 (value : Int128) : (ofInt128 value).IsDecimal := by
  rintro _ ⟨⟩
  rfl

theorem isDecimal_of_ofBinary64? {value : Binary64} {constant : Constant}
    (finite : ofBinary64? value = some constant) : constant.IsDecimal := by
  unfold ofBinary64? at finite
  split_ifs at finite
  cases finite
  rintro _ ⟨⟩

theorem isDecimal_of_foldDoubles {op : BinaryOp}
    {operation : Binary64 → Binary64 → Binary64}
    {left right folded : Constant}
    (fold : foldDoubles op operation left right = .ok folded) :
    folded.IsDecimal :=
  isDecimal_of_ofBinary64? (foldDoubles_ok fold)

theorem isDecimal_of_foldIntegers {op : BinaryOp}
    {left right folded : Constant}
    (fold : foldIntegers op left right = .ok folded) : folded.IsDecimal := by
  rcases foldIntegers_ok fold with ⟨value, rfl, -⟩
  exact isDecimal_ofInt128 value

theorem isDecimal_of_fold? {op : BinaryOp} {left right folded : Constant}
    (fold : fold? op left right = some (.ok folded)) : folded.IsDecimal := by
  rcases fold?_ok fold with ⟨integers, -⟩ | ⟨operation, doubles, -, -⟩
  · exact isDecimal_of_foldIntegers integers
  · exact isDecimal_of_foldDoubles doubles

theorem isDecimal_of_negate {constant negated : Constant}
    (fold : negate constant = .ok negated) : negated.IsDecimal := by
  rcases negate_ok fold with ⟨-, value, rfl, -⟩ | ⟨-, finite⟩
  · exact isDecimal_ofInt128 value
  · exact isDecimal_of_ofBinary64? finite

end Constant

/-! ## The constants that operators yield -/

/--
A result is computed if it is no constant at all, or a new one in decimal
spelling.
-/
def Result.Computed : Result → Prop
  | .type existing => existing.kind.constant? = none
  | .constant made => made.IsDecimal
  | .pointerTo _ => False

theorem Result.computed_unknown : (Result.type Ty.unknown).Computed := by
  simp [Computed, Ty.unknown, Kind.constant?]

theorem Verdict.computed_ofFold {folded : Except FoldFailure Constant}
    (decimal : ∀ constant, folded = .ok constant → constant.IsDecimal) :
    (Verdict.ofFold folded).result.Computed := by
  cases folded with
  | ok constant => exact decimal constant rfl
  | error failure => exact Result.computed_unknown

namespace BinaryOp

theorem apply_computed (op : BinaryOp) (options : Options)
    (subject left right : Ty) :
    (op.apply options subject left right).result.Computed := by
  unfold apply
  split_ifs with shift applies defined
  · rw [Bool.and_eq_true, Kind.isShiftable_iff] at applies
    rcases applies.1 with ⟨width, signed⟩
    simp [Verdict.yields, Result.Computed, signed, Kind.constant?]
  · exact Result.computed_unknown
  · exact (appliesTo_iff.mp defined).constant?_eq_none
  · exact Result.computed_unknown

theorem checkTyped_computed (op : BinaryOp) (options : Options)
    (left right : Ty) :
    (op.checkTyped options left right).result.Computed := by
  unfold checkTyped
  extract_lets converts subject other
  split
  · exact op.apply_computed options subject left right
  · split
    · exact Result.computed_unknown
    · exact op.apply_computed options subject left right

theorem check_computed (op : BinaryOp) (options : Options) (left right : Ty) :
    (op.check options left right).result.Computed := by
  unfold check
  split_ifs
  · exact Result.computed_unknown
  · split
    · split
      · next folded fold =>
          apply Verdict.computed_ofFold
          rintro constant rfl
          exact Constant.isDecimal_of_fold? fold
      · exact op.apply_computed options left left right
    · exact op.checkTyped_computed options left right

end BinaryOp

/-- The unary operators that fold constants instead of handing them on. -/
def UnaryOp.isFolding : UnaryOp → Bool
  | .minus | .bitNot => true
  | .plus | .not | .deref | .addressOf => false

theorem UnaryOp.check_computed {op : UnaryOp} (folding : op.isFolding = true)
    (options : Options) (operand : Ty) :
    (op.check options operand).result.Computed := by
  unfold check
  split_ifs
  · exact Result.computed_unknown
  · cases kind : operand.kind with
    | untyped constant =>
        cases op with
        | minus =>
            simp only [checkKnown, kind]
            exact Verdict.computed_ofFold fun _ =>
              Constant.isDecimal_of_negate
        | bitNot =>
            simp only [checkKnown, kind]
            split_ifs
            · exact Constant.isDecimal_ofInt128 _
            · exact Result.computed_unknown
        | plus | not | deref | addressOf => cases folding
    | _ =>
        -- Operands that are no constants are yielded as they are or refused.
        cases op <;>
          simp [checkKnown, kind, isFolding, Kind.isNumeric, Kind.isInteger,
            Verdict.yields, Verdict.rejected, Result.Computed, Kind.constant?,
            Ty.unknown] at folding ⊢

namespace Checker

theorem conclude_isDecimal {checker : Checker} {span : Span}
    {verdict : Verdict} {constant : Constant}
    (computed : verdict.result.Computed)
    (untyped : (checker.conclude span verdict).1.kind = .untyped constant) :
    constant.IsDecimal := by
  rcases verdict with ⟨result, problems⟩
  cases result with
  | type existing =>
      rw [conclude_type rfl] at untyped
      rw [Result.Computed, untyped] at computed
      cases computed
  | constant made =>
      rw [conclude_constant rfl] at untyped
      cases untyped
      exact computed
  | pointerTo base => exact computed.elim

/--
The spelling of a computed integer can be read back, unless it is the least
word.  Reading the decimal spelling of a word as a literal makes the type of the
same constant, with its form, its value and its text.  So does reading the text
of a constant of integer form that a binary operator, a negation or a complement
has come to, whatever its operands are.
-/
theorem computed_integer_reads_back (value : Int128)
    (inner : value.toInt ≠ Int128.least) :
    (Constant.ofInt128 value).ReadsBack ∧
      ∀ (checker : Checker) (span : Span) (text : String),
        (∀ (op : BinaryOp) (left right : Ty),
          (checker.binary span op left right).1.kind =
              .untyped ⟨text, .integer value⟩ →
            Constant.ReadsBack ⟨text, .integer value⟩) ∧
        ∀ (op : UnaryOp) (operand : Ty),
          op.isFolding = true →
          (checker.unary span op operand).1.kind =
              .untyped ⟨text, .integer value⟩ →
            Constant.ReadsBack ⟨text, .integer value⟩ := by
  refine ⟨Constant.readsBack_ofInt128 inner, ?_⟩
  intro checker span text
  constructor
  · intro op left right untyped
    have computed := op.check_computed checker.options left right
    exact (conclude_isDecimal computed untyped).readsBack inner
  · intro op operand folding untyped
    have computed := UnaryOp.check_computed folding checker.options operand
    exact (conclude_isDecimal computed untyped).readsBack inner

/-- The word after the least one. -/
def afterLeast : Int128 :=
  ⟨BitVec.intMin 128 + 1⟩

theorem computed_integer_reads_back_afterLeast :
    let greatest := written 6 "0x7fffffffffffffffffffffffffffffff"
      (BitVec.intMax 128)
    let outcome := (initial .standard).unary .unplaced .minus greatest
    afterLeast.toInt = Int128.least + 1 ∧
      outcome.1.kind =
        .untyped
          ⟨"-170141183460469231731687303715884105727", .integer afterLeast⟩ ∧
      Constant.ReadsBack
        ⟨"-170141183460469231731687303715884105727", .integer afterLeast⟩ := by
  intro greatest outcome
  have spelled :
      afterLeast.text = "-170141183460469231731687303715884105727" := by
    decide +kernel
  have untyped : outcome.1.kind = .untyped (.ofInt128 afterLeast) := rfl
  rw [Constant.ofInt128, spelled] at untyped
  have folded := (computed_integer_reads_back afterLeast (by decide)).2
    (initial .standard) .unplaced "-170141183460469231731687303715884105727"
  exact ⟨by decide, untyped, folded.2 .minus greatest rfl untyped⟩

/--
The spelling of the least word is read as a constant of floating form, and so
not as the constant that was spelled.
-/
theorem leastWord_not_read_back :
    Constant.ofLiteral? "-170141183460469231731687303715884105728" =
        some ⟨"-170141183460469231731687303715884105728",
          .floating ⟨0xc7e0000000000000⟩⟩ ∧
      ¬ (Constant.ofInt128 ⟨BitVec.intMin 128⟩).ReadsBack := by
  have spelled :
      Int128.text ⟨BitVec.intMin 128⟩ =
        "-170141183460469231731687303715884105728" := by
    decide +kernel
  have read :
      Constant.ofLiteral? "-170141183460469231731687303715884105728" =
        some ⟨"-170141183460469231731687303715884105728",
          .floating ⟨0xc7e0000000000000⟩⟩ := by
    decide +kernel
  refine ⟨read, ?_⟩
  intro readsBack
  have made := readsBack .initial
  rw [Constant.ofInt128, spelled, Arena.literal, read] at made
  cases made

end Checker

end TypeRules
