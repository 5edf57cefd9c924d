import TypeRules.Proofs.WrittenForm

/-!
# The spelling of a type tells what the type is

A spelling has no marks that say where a component ends: the result of a
function follows after a blank, and a structure closes with a blank and a brace.
It can be read in one way only all the same, as long as declared names are words
that mean nothing else.

The leading word of a spelling decides what the remainder looks like.  A
component in the remainder is always followed by one of a few marks, none of
which can continue a type.  The induction therefore compares two spellings
together with what follows each.
-/

namespace TypeRules

/-! ## Reading composite types -/

section Composites

/-- Two types that look alike up to where they end are identical. -/
abbrev Ty.ToldApart : Ty → Ty → Prop :=
  TellsApart Ty.text EndsType Ty.Identical

variable {leftRest rightRest : List Char}

theorem typeRow_inj {left right : List Ty}
    (writable : ∀ type ∈ left ++ right, type.Writable)
    (each : ∀ one ∈ left, ∀ two ∈ right, one.ToldApart two)
    (same : typeRow leftRest left = typeRow rightRest right) :
    List.Forall₂ Ty.Identical left right ∧ leftRest = rightRest := by
  refine row_inj divides_typeRow ?_ each same
  intro type member more other
  exact (writable type member).text_append_ne (by decide) (by decide)
    (by decide) more other

/-- The number of results that a text stands for, where two means several. -/
def resultShape : List Char → Nat
  | ' ' :: '\x7d' :: _ => 0
  | ' ' :: '(' :: _ => 2
  | ' ' :: _ => 1
  | _ => 0

theorem resultShape_resultsText {results : List Ty} {rest : List Char}
    (writable : ∀ type ∈ results, type.Writable) (ends : EndsType rest) :
    resultShape (resultsText rest results) = min results.length 2 := by
  match results with
  | [] => cases ends <;> rfl
  | [result] =>
      rw [List.forall_mem_singleton] at writable
      have differs (mark : Char) (foreign : isLeadChar mark = false)
          (notStar : mark ≠ '*') (notBracket : mark ≠ '[')
          (other : List Char) : result.text ++ rest ≠ mark :: other :=
        writable.text_append_ne foreign notStar notBracket rest other
      rw [resultsText]
      unfold resultShape
      split
      · next same =>
          exact (differs '\x7d' (by decide) (by decide) (by decide) _
            (List.cons.inj same).2).elim
      · next same =>
          exact (differs '(' (by decide) (by decide) (by decide) _
            (List.cons.inj same).2).elim
      · rfl
      · next blank => exact (blank _ rfl).elim
  | first :: second :: results => simp [resultsText, resultShape]

theorem resultsText_inj {left right : List Ty}
    (writable : ∀ type ∈ left ++ right, type.Writable)
    (each : ∀ one ∈ left, ∀ two ∈ right, one.ToldApart two)
    (leftEnds : EndsType leftRest) (rightEnds : EndsType rightRest)
    (same : resultsText leftRest left = resultsText rightRest right) :
    List.Forall₂ Ty.Identical left right ∧ leftRest = rightRest := by
  have both := List.forall_mem_append.mp writable
  have shapes : min left.length 2 = min right.length 2 := by
    rw [← resultShape_resultsText both.1 leftEnds, same,
      resultShape_resultsText both.2 rightEnds]
  match left, right with
  | [], [] => exact ⟨.nil, same⟩
  | [one], [two] =>
      rcases each one List.mem_cons_self two List.mem_cons_self _ _ leftEnds
          rightEnds (List.cons.inj same).2 with
        ⟨identical, rests⟩
      exact ⟨.cons identical .nil, rests⟩
  | one :: next :: left, two :: after :: right =>
      exact typeRow_inj writable each
        (List.cons.inj (List.cons.inj same).2).2
  | [], _ :: _ | _ :: _, [] | [_], _ :: _ :: _ | _ :: _ :: _, [_] =>
      simp only [List.length_cons, List.length_nil] at shapes
      omega

theorem Field.tellsApart {one two : Field Ty}
    (oneWord : isWord one.name.source = true)
    (twoWord : isWord two.name.source = true)
    (types : one.type.ToldApart two.type) :
    TellsApart Field.text EndsType (Field.Alike Ty.Identical) one two := by
  intro oneRest twoRest oneEnds twoEnds same
  rw [Field.text, Field.text, List.append_assoc, List.append_assoc] at same
  rcases append_inj_of_stops
      (fun char => isLeadChar_of_isWord oneWord)
      (fun char => isLeadChar_of_isWord twoWord)
      (.cons _ (by decide)) (.cons _ (by decide)) same with
    ⟨names, later⟩
  rcases types oneRest twoRest oneEnds twoEnds (List.cons.inj later).2 with
    ⟨identical, rests⟩
  have atoms : one.name = two.name :=
    congrArg Atom.mk (String.toList_inj.mp names)
  exact ⟨⟨atoms, identical⟩, rests⟩

theorem bracketed_inj {leftDigits rightDigits : List Char} {left right : Ty}
    (leftInside : ∀ char ∈ leftDigits, char.isDigit = true)
    (rightInside : ∀ char ∈ rightDigits, char.isDigit = true)
    (same :
      bracketed leftDigits left leftRest =
        bracketed rightDigits right rightRest) :
    leftDigits = rightDigits ∧
      left.text ++ leftRest = right.text ++ rightRest := by
  rcases append_inj_of_stops leftInside rightInside (.cons _ (by decide))
      (.cons _ (by decide)) (List.cons.inj same).2 with
    ⟨digits, later⟩
  exact ⟨digits, (List.cons.inj later).2⟩

namespace Kind

variable {left right : Kind Ty}

theorem remainder_struct_inj {left right : List (Field Ty)}
    (leftWritable : (struct left).Writable)
    (rightWritable : (struct right).Writable)
    (each :
      ∀ one ∈ (struct left).components, ∀ two ∈ (struct right).components,
        one.ToldApart two)
    (same :
      (struct left).remainder leftRest = (struct right).remainder rightRest) :
    Alike Ty.Identical (struct left) (struct right) ∧
      leftRest = rightRest := by
  have fields :
      ∀ one ∈ left, ∀ two ∈ right,
        TellsApart Field.text EndsType (Field.Alike Ty.Identical) one two := by
    intro one member two listed
    apply Field.tellsApart
    · exact leftWritable.fields _ (List.mem_map_of_mem member)
    · exact rightWritable.fields _ (List.mem_map_of_mem listed)
    · exact each _ (List.mem_map_of_mem member) _ (List.mem_map_of_mem listed)
  match left, right with
  | [], [] => exact ⟨.struct .nil, by simpa [remainder] using same⟩
  | one :: left, two :: right =>
      -- Neither row is empty, so both are the ends of longer ones.
      have rows := rowEnd_inj divides_fieldRow fields
        (congrArg ([';', ' '] ++ ·)
          (@List.append_cancel_left _ [' ', '\x7b', ' '] _ _ same))
      exact ⟨.struct rows.1, rows.2⟩
  | [], _ :: _ | _ :: _, [] => simp [remainder] at same

theorem remainder_func_inj {leftParams leftResults rightParams rightResults :
      List Ty}
    (leftWritable : (func leftParams leftResults).Writable)
    (rightWritable : (func rightParams rightResults).Writable)
    (each :
      ∀ one ∈ (func leftParams leftResults).components,
        ∀ two ∈ (func rightParams rightResults).components, one.ToldApart two)
    (leftEnds : EndsType leftRest) (rightEnds : EndsType rightRest)
    (same :
      (func leftParams leftResults).remainder leftRest =
        (func rightParams rightResults).remainder rightRest) :
    Alike Ty.Identical (func leftParams leftResults)
        (func rightParams rightResults) ∧
      leftRest = rightRest := by
  have leftParts := List.forall_mem_append.mp leftWritable.components
  have rightParts := List.forall_mem_append.mp rightWritable.components
  rcases typeRow_inj (List.forall_mem_append.mpr ⟨leftParts.1, rightParts.1⟩)
      (fun one member two listed =>
        each one (List.mem_append_left _ member) two
          (List.mem_append_left _ listed))
      (List.cons.inj same).2 with
    ⟨params, later⟩
  rcases resultsText_inj
      (List.forall_mem_append.mpr ⟨leftParts.2, rightParts.2⟩)
      (fun one member two listed =>
        each one (List.mem_append_right _ member) two
          (List.mem_append_right _ listed))
      leftEnds rightEnds later with
    ⟨results, rests⟩
  exact ⟨.func params results, rests⟩

theorem cases_of_stem_eq_empty {kind : Kind Ty} (writable : kind.Writable)
    (stemless : kind.stem = "") :
    (∃ base, kind = pointer base) ∨
      (∃ length element, kind = array length element) ∨
      ∃ element, kind = slice element := by
  cases kind with
  | pointer base => exact Or.inl ⟨base, rfl⟩
  | array length element => exact Or.inr (Or.inl ⟨length, element, rfl⟩)
  | slice element => exact Or.inr (Or.inr ⟨element, rfl⟩)
  | list types => exact (writable.notList types rfl).elim
  | untyped constant => exact (writable.notConstant constant rfl).elim
  | bool | string | int | uint | float | struct | func | unknown | any | void
  | variadicAny => simp [stem] at stemless

/-- Without a leading word there is a star, or brackets around digits or none. -/
theorem remainder_marked_inj (leftWritable : left.Writable)
    (rightWritable : right.Writable)
    (leftStem : left.stem = "") (rightStem : right.stem = "")
    (each :
      ∀ one ∈ left.components, ∀ two ∈ right.components, one.ToldApart two)
    (leftEnds : EndsType leftRest) (rightEnds : EndsType rightRest)
    (same : left.remainder leftRest = right.remainder rightRest) :
    Alike Ty.Identical left right ∧ leftRest = rightRest := by
  have inside (length : Nat) :
      ∀ char ∈ Nat.toDigits 10 length, char.isDigit = true :=
    fun _ => isDigit_of_mem_toDigits
  have nothing : ∀ char ∈ ([] : List Char), char.isDigit = true := by simp
  rcases cases_of_stem_eq_empty leftWritable leftStem with
      ⟨left, rfl⟩ | ⟨leftLength, left, rfl⟩ | ⟨left, rfl⟩ <;>
    rcases cases_of_stem_eq_empty rightWritable rightStem with
      ⟨right, rfl⟩ | ⟨rightLength, right, rfl⟩ | ⟨right, rfl⟩
  case inl.inl =>
      exact (each left List.mem_cons_self right List.mem_cons_self _ _
        leftEnds rightEnds (List.cons.inj same).2).imp_left .pointer
  case inr.inl.inr.inl =>
      rcases bracketed_inj (inside _) (inside _) same with ⟨digits, later⟩
      cases toDigits_inj.mp digits
      exact (each left List.mem_cons_self right List.mem_cons_self _ _
        leftEnds rightEnds later).imp_left (.array leftLength)
  case inr.inr.inr.inr =>
      exact (each left List.mem_cons_self right List.mem_cons_self _ _
        leftEnds rightEnds (bracketed_inj nothing nothing same).2).imp_left
        .slice
  case inr.inl.inr.inr =>
      exact (Nat.toDigits_ne_nil (bracketed_inj (inside _) nothing same).1).elim
  case inr.inr.inr.inl =>
      exact (Nat.toDigits_ne_nil
        (bracketed_inj nothing (inside _) same).1.symm).elim
  all_goals simp [remainder, bracketed] at same

theorem alike_or_isSentinel {kind : Kind Ty} (writable : kind.Writable)
    (simple : kind.components = []) :
    Alike Ty.Identical kind kind ∨ kind.isSentinel = true := by
  cases kind with
  | bool => exact Or.inl .bool
  | string => exact Or.inl .string
  | int width => exact Or.inl (.int width)
  | uint width => exact Or.inl (.uint width)
  | float width => exact Or.inl (.float width)
  | unknown | any | void | variadicAny => exact Or.inr rfl
  | struct fields =>
      rw [List.map_eq_nil_iff.mp simple]
      exact Or.inl (.struct .nil)
  | func params results =>
      rcases List.append_eq_nil_iff.mp simple with ⟨rfl, rfl⟩
      exact Or.inl (.func .nil .nil)
  | list types => exact (writable.notList types rfl).elim
  | untyped constant => exact (writable.notConstant constant rfl).elim
  | pointer | array | slice => cases simple

/-- Kinds that look alike are built alike or are one mark of the checker. -/
theorem remainder_inj (leftWritable : left.Writable)
    (rightWritable : right.Writable)
    (each :
      ∀ one ∈ left.components, ∀ two ∈ right.components, one.ToldApart two)
    (leftEnds : EndsType leftRest) (rightEnds : EndsType rightRest)
    (words : left.leadingWord = right.leadingWord)
    (same : left.remainder leftRest = right.remainder rightRest) :
    (Alike Ty.Identical left right ∨
        left = right ∧ left.isSentinel = true) ∧
      leftRest = rightRest := by
  rcases cases_of_leadingWord words with
    ⟨rfl, simple⟩ | ⟨leftFields, rightFields, rfl, rfl⟩ |
      ⟨leftParams, leftResults, rightParams, rightResults, rfl, rfl⟩ |
      ⟨leftStem, rightStem⟩
  · constructor
    · exact (alike_or_isSentinel leftWritable simple).imp_right
        fun sentinel => ⟨rfl, sentinel⟩
    · have spelled := toList_spell leftWritable.notList
        leftWritable.notConstant
      have texts := congrArg (left.leadingWord ++ ·) same
      simp only [← spelled] at texts
      exact List.append_cancel_left texts
  · exact (remainder_struct_inj leftWritable rightWritable each same).imp_left
      Or.inl
  · exact (remainder_func_inj leftWritable rightWritable each leftEnds
      rightEnds same).imp_left Or.inl
  · exact (remainder_marked_inj leftWritable rightWritable leftStem rightStem
      each leftEnds rightEnds same).imp_left Or.inl

end Kind

end Composites

/-! ## The spelling of a type decides its identity -/

section Arenas

variable {arena : Arena}

/-- Types are told apart if their components are. -/
theorem Ty.ToldApart.of_components (wellFormed : arena.WellFormed)
    {left right : Ty} (leftMember : left ∈ arena.types)
    (rightMember : right ∈ arena.types) (leftWritable : left.Writable)
    (rightWritable : right.Writable)
    (each :
      ∀ one ∈ left.kind.components, ∀ two ∈ right.kind.components,
        one.Writable → two.Writable → one.ToldApart two) :
    left.ToldApart right := by
  intro leftRest rightRest leftEnds rightEnds same
  rw [leftWritable.text_append, rightWritable.text_append] at same
  rcases append_inj_of_stops (fun char => leftWritable.isLeadChar_of_mem)
      (fun char => rightWritable.isLeadChar_of_mem)
      (Ty.remainder_stops leftEnds) (Ty.remainder_stops rightEnds) same with
    ⟨words, later⟩
  cases leftName : left.name with
  | some leftText =>
      cases rightName : right.name with
      | some rightText =>
          simp only [Ty.leadingWord, Ty.remainder, leftName, rightName]
            at words later
          have names : leftText = rightText :=
            congrArg Atom.mk (String.toList_inj.mp words)
          subst names
          exact ⟨Ty.identical_iff.mpr
            (Or.inr (Or.inl ⟨leftText, leftName, rightName⟩)), later⟩
      | none =>
          simp only [Ty.leadingWord, leftName, rightName] at words
          have declarable := leftWritable.declarable leftName
          rw [Kind.isDeclarable_leadingWord words] at declarable
          cases declarable
  | none =>
      cases rightName : right.name with
      | some rightText =>
          simp only [Ty.leadingWord, leftName, rightName] at words
          have declarable := rightWritable.declarable rightName
          rw [Kind.isDeclarable_leadingWord words.symm] at declarable
          cases declarable
      | none =>
          simp only [Ty.leadingWord, Ty.remainder, leftName, rightName]
            at words later
          have leftKind := leftWritable.kind leftName
          have rightKind := rightWritable.kind rightName
          rcases Kind.remainder_inj leftKind rightKind
              (fun one member two listed =>
                each one member two listed (leftKind.components one member)
                  (rightKind.components two listed))
              leftEnds rightEnds words later with
            ⟨alike | ⟨kinds, sentinel⟩, rests⟩
          · exact ⟨Ty.identical_iff.mpr
              (Or.inr (Or.inr ⟨leftName, rightName, alike⟩)), rests⟩
          · have one := (wellFormed.sentinel_existsUnique sentinel).unique
              ⟨leftMember, rfl⟩ ⟨rightMember, kinds.symm⟩
            rw [one]
            exact ⟨Ty.Identical.refl right, rests⟩

theorem Arena.WellFormed.toldApart (wellFormed : arena.WellFormed)
    {left right : Ty} (leftMember : left ∈ arena.types)
    (rightMember : right ∈ arena.types) (leftWritable : left.Writable)
    (rightWritable : right.Writable) : left.ToldApart right := by
  induction left using Ty.induction_on_components generalizing right with
  | step left inductionHypothesis =>
      apply Ty.ToldApart.of_components wellFormed leftMember rightMember
        leftWritable rightWritable
      intro one member two listed oneWritable
      exact inductionHypothesis one member
        ((wellFormed.fits left leftMember).components one member)
        ((wellFormed.fits right rightMember).components two listed)
        oneWritable

theorem map_eq_of_forall₂ {α β : Type} {related : α → α → Prop}
    {value : α → β} {left right : List α}
    (each :
      ∀ one ∈ left, ∀ two ∈ right, related one two → value one = value two)
    (all : List.Forall₂ related left right) :
    left.map value = right.map value := by
  induction all with
  | nil => rfl
  | cons head _ inductionHypothesis =>
      rw [List.map_cons, List.map_cons]
      congr 1
      · exact each _ List.mem_cons_self _ List.mem_cons_self head
      · apply inductionHypothesis
        intro one member two listed
        exact each one (List.mem_cons_of_mem _ member) two
          (List.mem_cons_of_mem _ listed)

theorem Kind.Alike.rendered_eq {left right : Kind Ty}
    (alike : Alike Ty.Identical left right)
    (each :
      ∀ one ∈ left.components, ∀ two ∈ right.components,
        one.Identical two → one.rendering = two.rendering) :
    left.rendered = right.rendered := by
  cases alike with
  | bool | string | int | uint | float => rfl
  | pointer base | slice base | array _ base =>
      simp only [Kind.rendered,
        each _ List.mem_cons_self _ List.mem_cons_self base]
  | struct fields =>
      simp only [Kind.rendered, fieldRenderings_eq_map]
      refine congrArg Kind.struct (map_eq_of_forall₂ ?_ fields)
      rintro ⟨name, one⟩ member ⟨other, two⟩ listed ⟨rfl, identical⟩
      have types := each one (List.mem_map_of_mem member) two
        (List.mem_map_of_mem listed) identical
      rw [Field.rendered, Field.rendered, types]
  | func params results =>
      simp only [Kind.rendered, renderings_eq_map]
      congr 1
      · refine map_eq_of_forall₂ ?_ params
        intro one member two listed
        exact each one (List.mem_append_left _ member) two
          (List.mem_append_left _ listed)
      · refine map_eq_of_forall₂ ?_ results
        intro one member two listed
        exact each one (List.mem_append_right _ member) two
          (List.mem_append_right _ listed)
  | list types =>
      simp only [Kind.rendered, renderings_eq_map]
      exact congrArg Kind.list (map_eq_of_forall₂ each types)

/-- Identical types of an arena are spelled alike. -/
theorem Arena.WellFormed.rendering_eq (wellFormed : arena.WellFormed)
    {left right : Ty} (leftMember : left ∈ arena.types)
    (rightMember : right ∈ arena.types) (identical : left.Identical right) :
    left.rendering = right.rendering := by
  induction left using Ty.induction_on_components generalizing right with
  | step left inductionHypothesis =>
      rcases Ty.identical_iff.mp identical with
        ids | ⟨name, leftName, rightName⟩ | ⟨leftName, rightName, alike⟩
      · rw [wellFormed.identified left right (.member leftMember)
          (.member rightMember) ids]
      · rw [Ty.rendering_of_named leftName, Ty.rendering_of_named rightName]
      · rw [Ty.rendering_of_unnamed leftName, Ty.rendering_of_unnamed rightName,
          alike.rendered_eq]
        intro one member two listed
        exact inductionHypothesis one member
          ((wellFormed.fits left leftMember).components one member)
          ((wellFormed.fits right rightMember).components two listed)

theorem Arena.WellFormed.rendering_eq_iff (wellFormed : arena.WellFormed)
    {left right : Ty} (leftMember : left ∈ arena.types)
    (rightMember : right ∈ arena.types) (leftWritable : left.Writable)
    (rightWritable : right.Writable) :
    left.rendering = right.rendering ↔ left.Identical right := by
  constructor
  · intro same
    have texts : left.text ++ [] = right.text ++ [] := by
      rw [Ty.text, Ty.text, same]
    exact (wellFormed.toldApart leftMember rightMember leftWritable
      rightWritable _ _ .nothing .nothing texts).1
  · exact wellFormed.rendering_eq leftMember rightMember

end Arenas

namespace Checker

/--
Two types that can be written down are spelled with one text, the second after
the first, exactly if they are identical.
-/
theorem spelling_decides_identity {checker : Checker}
    (reachable : checker.Reachable) {left right : Ty}
    (leftMember : left ∈ checker.arena.types)
    (rightMember : right ∈ checker.arena.types)
    (leftWritable : left.Writable) (rightWritable : right.Writable) :
    (checker.print left).1 = ((checker.print left).2.print right).1 ↔
      left.identical right = true := by
  have truthful := reachable.truthful
  have after : (checker.print left).2.arena.Truthful :=
    serve_truthful truthful (.print left)
      (List.forall_mem_singleton.mpr leftMember)
  have first : (checker.print left).1 = left.rendering :=
    truthful.print_eq leftMember
  have second : ((checker.print left).2.print right).1 = right.rendering :=
    after.print_eq rightMember
  rw [first, second]
  exact truthful.wellFormed.rendering_eq_iff leftMember rightMember
    leftWritable rightWritable

theorem spelling_decides_identity_points :
    (Ty.point 6).Writable ∧ (Ty.point 7).Writable ∧
      (pointsRun.print (Ty.point 6)).1 =
        ((pointsRun.print (Ty.point 6)).2.print (Ty.point 7)).1 ∧
      (pointsRun.print (Ty.point 6)).1 ≠
        ((pointsRun.print (Ty.point 6)).2.print Ty.bool).1 := by
  have bool : Ty.bool.Writable :=
    .unnamed rfl (fun _ => nofun) (fun _ => nofun) nofun nofun
  have point (id : Nat) : (Ty.point id).Writable :=
    .unnamed rfl (fun _ => nofun) (fun _ => nofun)
      (List.forall_mem_singleton.mpr (by decide))
      (List.forall_mem_singleton.mpr bool)
  have points : pointsRun.Reachable := bothPointersRun_reachable.1
  have member : Ty.point 6 ∈ pointsRun.arena.types :=
    Array.mem_of_getElem? (i := 6) rfl
  refine ⟨point 6, point 7, ?_, ?_⟩
  · apply (spelling_decides_identity points member
      (Array.mem_of_getElem? (i := 7) rfl) (point 6) (point 7)).mpr
    rfl
  · intro same
    have identical := (spelling_decides_identity points member
      (Array.mem_of_getElem? (i := 4) rfl) (point 6) bool).mp same
    cases identical

end Checker

end TypeRules
