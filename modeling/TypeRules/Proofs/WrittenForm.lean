import TypeRules.Proofs.Rendering

/-!
# The characters of a spelling

A spelling is a leading word, possibly empty, and a remainder.  The word ends at
the first character that cannot stand in one, so the two can be told apart, and
no declared name is the leading word of anything else.

Several types or fields in a row are divided by separators and end in a closing
mark.  Where the marks cannot be taken for one another or for the beginning of
an item, such a row can be read in one way if each of its items can.
-/

namespace TypeRules

/-! ## Words -/

/-- A letter, a digit or an underscore. -/
def isWordChar (char : Char) : Bool :=
  char.isAlphanum || char == '_'

/-- A text of letters, digits and underscores, and of at least one of them. -/
def isWord (text : String) : Bool :=
  !text.toList.isEmpty && text.toList.all isWordChar

/-- The words that spellings use for purposes of their own. -/
def keywords : List String :=
  ["func", "struct", "bool", "string", "any", "void", "unknown"]

/-- A stem with digits after it, of which there is at least one. -/
def isSized (stem text : String) : Bool :=
  (text.toList.dropPrefix? stem.toList).any fun digits =>
    !digits.isEmpty && digits.all Char.isDigit

/-- A word that means nothing in a spelling unless it is declared. -/
def isDeclarable (text : String) : Bool :=
  isWord text && !keywords.contains text &&
    ["int", "uint", "float"].all fun stem => !isSized stem text

/--
The types that can be written down: a type that has a name is written as its
name, and any other from its parts.  Bare lists of types and constants are left
out, since they are not types of anything that can be declared.
-/
inductive Ty.Writable : Ty → Prop where
  | named {type : Ty} {name : Atom} (named : type.name = some name)
      (declarable : isDeclarable name.source = true) : Writable type
  | unnamed {type : Ty} (unnamed : type.name = none)
      (notList : ∀ types, type.kind ≠ .list types)
      (notConstant : ∀ constant, type.kind ≠ .untyped constant)
      (fields : ∀ name ∈ type.kind.fieldNames, isWord name.source = true)
      (components : ∀ component ∈ type.kind.components, Writable component) :
      Writable type

/-- What is asked of the kind of a type that has no name. -/
structure Kind.Writable (kind : Kind Ty) : Prop where
  notList : ∀ types, kind ≠ .list types
  notConstant : ∀ constant, kind ≠ .untyped constant
  fields : ∀ name ∈ kind.fieldNames, isWord name.source = true
  components : ∀ component ∈ kind.components, component.Writable

theorem Ty.Writable.kind {type : Ty} (writable : type.Writable)
    (unnamed : type.name = none) : type.kind.Writable := by
  cases writable with
  | named named =>
      rw [unnamed] at named
      cases named
  | unnamed _ notList notConstant fields components =>
      exact ⟨notList, notConstant, fields, components⟩

/-! ## Texts that end where a class of characters does -/

/-- The text does not begin with a character of the class. -/
def Stops (inside : Char → Bool) (rest : List Char) : Prop :=
  ∀ char ∈ rest.head?, inside char = false

namespace Stops

variable {inside : Char → Bool}

theorem nil : Stops inside [] := by
  simp [Stops]

theorem cons {char : Char} (rest : List Char)
    (outside : inside char = false) : Stops inside (char :: rest) := by
  simpa [Stops] using outside

end Stops

/-- Characters of a class are told from what stops them. -/
theorem append_inj_of_stops {inside : Char → Bool}
    {left right leftRest rightRest : List Char}
    (leftInside : ∀ char ∈ left, inside char = true)
    (rightInside : ∀ char ∈ right, inside char = true)
    (leftStops : Stops inside leftRest) (rightStops : Stops inside rightRest)
    (same : left ++ leftRest = right ++ rightRest) :
    left = right ∧ leftRest = rightRest := by
  have taken {text rest : List Char}
      (within : ∀ char ∈ text, inside char = true)
      (stops : Stops inside rest) :
      (text ++ rest).takeWhile inside = text := by
    rw [List.takeWhile_append_of_pos within]
    cases rest with
    | nil => simp
    | cons char rest => simp [stops char rfl]
  have words : left = right :=
    calc
      left = (left ++ leftRest).takeWhile inside :=
        (taken leftInside leftStops).symm
      _ = (right ++ rightRest).takeWhile inside := by rw [same]
      _ = right := taken rightInside rightStops
  subst words
  exact ⟨rfl, List.append_cancel_left same⟩

@[simp]
theorem toDigits_inj {left right : Nat} :
    Nat.toDigits 10 left = Nat.toDigits 10 right ↔ left = right := by
  constructor
  · intro same
    have values := congrArg (fun digits => Nat.ofDigitChars 10 digits 0) same
    simpa [Nat.ofDigitChars_toDigits] using values
  · intro same
    rw [same]

/-! ## Rows -/

section Rows

variable {α : Type} (text : α → List Char) (separator closing : List Char)

/-- Further items, each after a separator, then the closing mark. -/
def rowEnd (rest : List Char) : List α → List Char
  | [] => closing ++ rest
  | item :: items => separator ++ (text item ++ rowEnd rest items)

/-- Items divided by separators, then the closing mark. -/
def row (rest : List Char) : List α → List Char
  | [] => closing ++ rest
  | item :: items => text item ++ rowEnd text separator closing rest items

theorem intercalate_append_eq_row (rest : List Char) (items : List α) :
    separator.intercalate (items.map text) ++ (closing ++ rest) =
      row text separator closing rest items := by
  cases items with
  | nil => simp [row]
  | cons item items =>
      rw [row]
      induction items generalizing item with
      | nil => simp [rowEnd]
      | cons next items inductionHypothesis =>
          simp only [List.map_cons, List.intercalate_cons_cons,
            List.append_assoc, rowEnd] at inductionHypothesis ⊢
          rw [inductionHypothesis]

variable {text separator closing}

/-- Marks that end an item, and of which one is never taken for the other. -/
structure Divides (ends : List Char → Prop)
    (separator closing : List Char) : Prop where
  separated : ∀ more, ends (separator ++ more)
  closed : ∀ more, ends (closing ++ more)
  differ : ∀ more other, separator ++ more ≠ closing ++ other

/-- Where two items look alike up to their ends they are related. -/
def TellsApart (text : α → List Char) (ends : List Char → Prop)
    (related : α → α → Prop) (one two : α) : Prop :=
  ∀ oneRest twoRest, ends oneRest → ends twoRest →
    text one ++ oneRest = text two ++ twoRest →
      related one two ∧ oneRest = twoRest

variable {ends : List Char → Prop} {related : α → α → Prop}
  {left right : List α} {leftRest rightRest : List Char}

theorem Divides.rowEnd (divides : Divides ends separator closing)
    (rest : List Char) (items : List α) :
    ends (rowEnd text separator closing rest items) := by
  cases items with
  | nil => exact divides.closed rest
  | cons item items => exact divides.separated _

theorem rowEnd_inj (divides : Divides ends separator closing)
    (each :
      ∀ one ∈ left, ∀ two ∈ right, TellsApart text ends related one two)
    (same :
      rowEnd text separator closing leftRest left =
        rowEnd text separator closing rightRest right) :
    List.Forall₂ related left right ∧ leftRest = rightRest := by
  induction left generalizing right with
  | nil =>
      cases right with
      | nil => exact ⟨.nil, List.append_cancel_left same⟩
      | cons two right => exact (divides.differ _ _ same.symm).elim
  | cons one left inductionHypothesis =>
      cases right with
      | nil => exact (divides.differ _ _ same).elim
      | cons two right =>
          have items := each one List.mem_cons_self two List.mem_cons_self _ _
            (divides.rowEnd leftRest left) (divides.rowEnd rightRest right)
            (List.append_cancel_left same)
          have later := inductionHypothesis
            (fun one member two listed =>
              each one (List.mem_cons_of_mem _ member) two
                (List.mem_cons_of_mem _ listed))
            items.2
          exact ⟨.cons items.1 later.1, later.2⟩

/-- A row can be read in one way if each of its items can. -/
theorem row_inj (divides : Divides ends separator closing)
    (opened :
      ∀ item ∈ left ++ right, ∀ more other,
        text item ++ more ≠ closing ++ other)
    (each :
      ∀ one ∈ left, ∀ two ∈ right, TellsApart text ends related one two)
    (same :
      row text separator closing leftRest left =
        row text separator closing rightRest right) :
    List.Forall₂ related left right ∧ leftRest = rightRest := by
  cases left with
  | nil =>
      cases right with
      | nil => exact ⟨.nil, List.append_cancel_left same⟩
      | cons two right =>
          exact (opened two List.mem_cons_self _ _ same.symm).elim
  | cons one left =>
      cases right with
      | nil =>
          exact (opened one (List.mem_append_left _ List.mem_cons_self) _ _
            same).elim
      | cons two right =>
          -- With a separator before its first item a row is the end of one.
          apply rowEnd_inj divides each
          exact congrArg (separator ++ ·) same

end Rows

/-! ## A spelling in two parts -/

/-- The characters of the spelling of a type. -/
def Ty.text (type : Ty) : List Char :=
  type.rendering.toList

/-- The characters of a field, its name before its type. -/
def Field.text (field : Field Ty) : List Char :=
  field.name.source.toList ++ ' ' :: field.type.text

/-- Types in a row, up to the bracket that closes it. -/
def typeRow (rest : List Char) (types : List Ty) : List Char :=
  row Ty.text [',', ' '] [')'] rest types

/-- Fields in a row, up to the brace that closes it. -/
def fieldRow (rest : List Char) (fields : List (Field Ty)) : List Char :=
  row Field.text [';', ' '] [' ', '\x7d'] rest fields

/-- The results of a function. -/
def resultsText (rest : List Char) : List Ty → List Char
  | [] => rest
  | [result] => ' ' :: (result.text ++ rest)
  | results => ' ' :: '(' :: typeRow rest results

/-- A length between brackets, or no length, and then a type. -/
def bracketed (digits : List Char) (element : Ty) (rest : List Char) :
    List Char :=
  '[' :: (digits ++ ']' :: (element.text ++ rest))

namespace Kind

/-- The letters that the spelling of a kind begins with. -/
def stem : Kind Ty → String
  | bool => "bool"
  | string => "string"
  | int _ => "int"
  | uint _ => "uint"
  | float _ => "float"
  | struct _ => "struct"
  | func _ _ => "func"
  | unknown => "unknown"
  | any => "any"
  | void => "void"
  | variadicAny => "...any"
  | pointer _ | array _ _ | slice _ | list _ | untyped _ => ""

/-- The digits that follow the letters. -/
def width : Kind Ty → List Char
  | int width | uint width | float width => Nat.toDigits 10 width
  | _ => []

/-- The word that the spelling of a kind begins with. -/
def leadingWord (kind : Kind Ty) : List Char :=
  kind.stem.toList ++ kind.width

/-- What comes after the leading word. -/
def remainder (rest : List Char) : Kind Ty → List Char
  | pointer base => '*' :: (base.text ++ rest)
  | array length element => bracketed (Nat.toDigits 10 length) element rest
  | slice element => bracketed [] element rest
  | struct [] => ' ' :: '\x7b' :: '\x7d' :: rest
  | struct fields => ' ' :: '\x7b' :: ' ' :: fieldRow rest fields
  | func params results => '(' :: typeRow (resultsText rest results) params
  | _ => rest

theorem toList_commaSeparated (types : List Ty) (rest : List Char) :
    (commaSeparated (renderings types)).toList ++ (')' :: rest) =
      typeRow rest types := by
  rw [commaSeparated, String.toList_intercalate, renderings_eq_map,
    List.map_map]
  exact intercalate_append_eq_row Ty.text _ [')'] rest types

theorem toList_spellResults (results : List Ty) (rest : List Char) :
    (spellResults (renderings results)).toList ++ rest =
      resultsText rest results := by
  cases results with
  | nil => rfl
  | cons result results =>
      cases results with
      | nil => simp [renderings, spellResults, resultsText, Ty.text]
      | cons next results =>
          change _ = ' ' :: '(' :: typeRow rest (result :: next :: results)
          rw [← toList_commaSeparated]
          simp [renderings, spellResults]

theorem toList_fieldSpell (field : Field Ty) :
    (field.rendered.spell Atom.source).toList = field.text := by
  simp [Field.spell, Field.text, Ty.text]

theorem toList_spellFields (field : Field Ty) (fields : List (Field Ty))
    (rest : List Char) :
    (spellFields Atom.source (fieldRenderings (field :: fields))).toList ++
        rest =
      "struct".toList ++
        (' ' :: '\x7b' :: ' ' :: fieldRow rest (field :: fields)) := by
  have inner := intercalate_append_eq_row Field.text [';', ' ']
    [' ', '\x7d'] rest (field :: fields)
  rw [fieldRow, ← inner]
  simp [fieldRenderings_eq_map, spellFields, String.toList_intercalate,
    toList_fieldSpell, Function.comp_def]

theorem toList_spell {kind : Kind Ty} (notList : ∀ types, kind ≠ list types)
    (notConstant : ∀ constant, kind ≠ untyped constant) (rest : List Char) :
    (kind.rendered.spell Atom.source).toList ++ rest =
      kind.leadingWord ++ kind.remainder rest := by
  cases kind with
  | struct fields =>
      cases fields with
      | nil => rfl
      | cons field fields =>
          have word :
              (struct (field :: fields)).leadingWord = "struct".toList :=
            List.append_nil _
          rw [word]
          exact toList_spellFields field fields rest
  | func params results =>
      rw [remainder, ← toList_commaSeparated, ← toList_spellResults]
      simp [rendered, spell, leadingWord, stem, width]
  | pointer | array | slice =>
      simp [rendered, spell, leadingWord, stem, width, remainder, bracketed,
        Ty.text]
  | int | uint | float =>
      simp [rendered, spell, leadingWord, stem, width, remainder]
  | bool | string | unknown | any | void | variadicAny => rfl
  | list types => exact (notList types rfl).elim
  | untyped constant => exact (notConstant constant rfl).elim

end Kind

/-! ## Where words and types end -/

/-- A character that can stand in a leading word. -/
def isLeadChar (char : Char) : Bool :=
  isWordChar char || char == '.'

/-- The texts that come after a type. -/
inductive EndsType : List Char → Prop where
  | nothing : EndsType []
  | comma (rest : List Char) : EndsType (',' :: rest)
  | bracket (rest : List Char) : EndsType (')' :: rest)
  | semicolon (rest : List Char) : EndsType (';' :: rest)
  | brace (rest : List Char) : EndsType (' ' :: '\x7d' :: rest)

theorem EndsType.stops {rest : List Char} (ends : EndsType rest) :
    Stops isLeadChar rest := by
  cases ends with
  | nothing => exact .nil
  | comma rest | bracket rest | semicolon rest | brace rest =>
      exact .cons _ (by decide)

theorem divides_typeRow : Divides EndsType [',', ' '] [')'] where
  separated _ := .comma _
  closed _ := .bracket _
  differ _ _ := by simp

theorem divides_fieldRow : Divides EndsType [';', ' '] [' ', '\x7d'] where
  separated _ := .semicolon _
  closed _ := .brace _
  differ _ _ := by simp

theorem isDigit_of_mem_toDigits {number : Nat} {char : Char}
    (member : char ∈ Nat.toDigits 10 number) : char.isDigit = true :=
  Nat.isDigit_of_mem_toDigits (by decide) (by decide) member

theorem isLeadChar_of_isDigit {char : Char} (digit : char.isDigit = true) :
    isLeadChar char = true := by
  simp [isLeadChar, isWordChar, Char.isAlphanum, digit]

theorem isWord_of_isDeclarable {text : String}
    (declarable : isDeclarable text = true) : isWord text = true := by
  simp only [isDeclarable, Bool.and_eq_true] at declarable
  exact declarable.1.1

theorem isLeadChar_of_isWord {text : String} (word : isWord text = true)
    {char : Char} (member : char ∈ text.toList) : isLeadChar char = true := by
  rw [isWord, Bool.and_eq_true] at word
  rw [isLeadChar, List.all_eq_true.mp word.2 char member, Bool.true_or]

theorem isSized_append_toDigits (stem : String) (number : Nat) {text : String}
    (leading : text.toList = stem.toList ++ Nat.toDigits 10 number) :
    isSized stem text = true := by
  have split :
      text.toList.dropPrefix? stem.toList = some (Nat.toDigits 10 number) :=
    List.dropPrefix?_eq_some_iff.mpr ⟨_, leading, beq_self_eq_true _⟩
  rw [isSized, split, Option.any_some, Bool.and_eq_true]
  constructor
  · simp
  · exact List.all_eq_true.mpr fun char => isDigit_of_mem_toDigits

namespace Kind

theorem isDigit_of_mem_width {kind : Kind Ty} {char : Char}
    (member : char ∈ kind.width) : char.isDigit = true := by
  cases kind with
  | int | uint | float => exact isDigit_of_mem_toDigits member
  | bool | string | struct | func | unknown | any | void | variadicAny
  | pointer | array | slice | list | untyped => cases member

theorem stem_chars (kind : Kind Ty) :
    ∀ char ∈ kind.stem.toList,
      isLeadChar char = true ∧ (!char.isDigit) = true := by
  have letters :
      (kind.stem.toList.all fun char =>
        isLeadChar char && !char.isDigit) = true := by
    cases kind <;> (rw [stem]; decide)
  intro char member
  rw [← Bool.and_eq_true]
  exact List.all_eq_true.mp letters char member

theorem isLeadChar_of_mem_leadingWord {kind : Kind Ty} {char : Char}
    (member : char ∈ kind.leadingWord) : isLeadChar char = true := by
  rcases List.mem_append.mp member with inStem | inWidth
  · exact (kind.stem_chars char inStem).1
  · exact isLeadChar_of_isDigit (isDigit_of_mem_width inWidth)

/-- The leading word of a kind is never a declared name. -/
theorem isDeclarable_leadingWord {kind : Kind Ty} {text : String}
    (leading : text.toList = kind.leadingWord) : isDeclarable text = false := by
  have sized {stem : String} {number : Nat}
      (numeric : stem ∈ ["int", "uint", "float"])
      (leading : text.toList = stem.toList ++ Nat.toDigits 10 number) :
      isDeclarable text = false := by
    rw [Bool.eq_false_iff]
    intro declarable
    rw [isDeclarable, Bool.and_eq_true] at declarable
    have unsized := List.all_eq_true.mp declarable.2 stem numeric
    rw [isSized_append_toDigits stem number leading] at unsized
    cases unsized
  have plain (unsized : kind.width = []) : text = kind.stem := by
    rw [leadingWord, unsized, List.append_nil] at leading
    exact String.toList_inj.mp leading
  cases kind with
  | int | uint | float => exact sized (by simp [stem]) leading
  | bool | string | struct | func | unknown | any | void | variadicAny
  | pointer | array | slice | list | untyped =>
      rw [plain rfl, stem]
      decide

theorem width_stops (kind : Kind Ty) :
    Stops (fun char => !char.isDigit) kind.width := by
  intro char first
  change (!char.isDigit) = false
  rw [isDigit_of_mem_width (List.mem_of_mem_head? first), Bool.not_true]

/--
A leading word decides the kind as far as it goes: two kinds with one leading
word are the same, or they are both structures, both functions, or both without
a leading word.
-/
theorem cases_of_leadingWord {left right : Kind Ty}
    (words : left.leadingWord = right.leadingWord) :
    left = right ∧ left.components = [] ∨
      (∃ leftFields rightFields,
        left = struct leftFields ∧ right = struct rightFields) ∨
      (∃ leftParams leftResults rightParams rightResults,
        left = func leftParams leftResults ∧
          right = func rightParams rightResults) ∨
      left.stem = "" ∧ right.stem = "" := by
  rcases append_inj_of_stops
      (fun char member => (left.stem_chars char member).2)
      (fun char member => (right.stem_chars char member).2)
      left.width_stops right.width_stops words with
    ⟨stems, widths⟩
  rw [String.toList_inj] at stems
  cases left <;> cases right <;> simp_all [stem, width, components]

theorem remainder_stops {kind : Kind Ty} {rest : List Char}
    (ends : EndsType rest) : Stops isLeadChar (kind.remainder rest) := by
  cases kind with
  | struct fields => cases fields <;> exact .cons _ (by decide)
  | pointer | array | slice | func => exact .cons _ (by decide)
  | bool | string | int | uint | float | unknown | any | void | variadicAny
  | list | untyped => exact ends.stops

end Kind

namespace Ty

/-- The word that the spelling of a type begins with. -/
def leadingWord (type : Ty) : List Char :=
  match type.name with
  | some name => name.source.toList
  | none => type.kind.leadingWord

/-- What comes after the leading word of a type. -/
def remainder (rest : List Char) (type : Ty) : List Char :=
  match type.name with
  | some _ => rest
  | none => type.kind.remainder rest

theorem remainder_stops {type : Ty} {rest : List Char}
    (ends : EndsType rest) : Stops isLeadChar (type.remainder rest) := by
  unfold remainder
  split
  · exact ends.stops
  · exact Kind.remainder_stops ends

namespace Writable

variable {type : Ty}

theorem text_append (writable : type.Writable) (rest : List Char) :
    type.text ++ rest = type.leadingWord ++ type.remainder rest := by
  cases writable with
  | named named =>
      rw [text, rendering_of_named named, leadingWord, remainder, named]
  | unnamed unnamed notList notConstant =>
      rw [text, rendering_of_unnamed unnamed, leadingWord, remainder, unnamed]
      exact Kind.toList_spell notList notConstant rest

theorem declarable (writable : type.Writable) {name : Atom}
    (named : type.name = some name) : isDeclarable name.source = true := by
  cases writable with
  | named own declarable =>
      cases own.symm.trans named
      exact declarable
  | unnamed unnamed =>
      rw [named] at unnamed
      cases unnamed

theorem isLeadChar_of_mem (writable : type.Writable) {char : Char}
    (member : char ∈ type.leadingWord) : isLeadChar char = true := by
  cases writable with
  | named named declarable =>
      rw [leadingWord, named] at member
      exact isLeadChar_of_isWord (isWord_of_isDeclarable declarable) member
  | unnamed unnamed =>
      rw [leadingWord, unnamed] at member
      exact Kind.isLeadChar_of_mem_leadingWord member

/-- A type begins with a word, a star or a bracket. -/
theorem text_append_ne (writable : type.Writable) {mark : Char}
    (foreign : isLeadChar mark = false) (notStar : mark ≠ '*')
    (notBracket : mark ≠ '[') (more other : List Char) :
    type.text ++ more ≠ mark :: other := by
  rw [writable.text_append]
  cases word : type.leadingWord with
  | cons first letters =>
      intro same
      have lead : isLeadChar first = true :=
        writable.isLeadChar_of_mem (word ▸ List.mem_cons_self)
      rw [(List.cons.inj same).1, foreign] at lead
      cases lead
  | nil =>
      cases writable with
      | named named declarable =>
          simp only [leadingWord, named] at word
          have wordless := isWord_of_isDeclarable declarable
          rw [isWord, word] at wordless
          cases wordless
      | unnamed unnamed notList notConstant =>
          rw [leadingWord, unnamed, Kind.leadingWord,
            List.append_eq_nil_iff] at word
          rw [remainder, unnamed]
          cases kind : type.kind with
          | pointer | array | slice =>
              simp [Kind.remainder, bracketed, notStar.symm, notBracket.symm]
          | list types => exact (notList types kind).elim
          | untyped constant => exact (notConstant constant kind).elim
          | bool | string | int | uint | float | struct | func | unknown | any
          | void | variadicAny => simp [kind, Kind.stem] at word

end Writable

end Ty

end TypeRules
