import TypeRules.Proofs.Faults
import TypeRules.Proofs.Rendering

/-!
# Spellings without faults

A name has to be known where it is spelled, and unknown where it gets its text.
Every name that occurs in a type of an arena is known to it, so that the types
of an arena can be spelled.
-/

namespace TypeRules

namespace Strict

/-! ## Names -/

/-- The text of an atom that is taken to have one. -/
def lookup (atoms : AtomTable) (atom : Atom) : Checked String :=
  match atoms.get? atom with
  | some text => return text
  | none => throw (.unknownAtom atom)

/-- Give a text to an atom that is taken to have none. -/
def insert (atoms : AtomTable) (atom : Atom) (text : String) :
    Checked AtomTable :=
  match atoms.insert atom text with
  | (none, atoms) => return atoms
  | (some _, _) => throw (.knownAtom atom)

/-- Give each of several texts to its atom. -/
def insertAll (atoms : AtomTable) (texts : List String) : Checked AtomTable :=
  texts.foldlM (fun known text => insert known ⟨text⟩ text) atoms

/-- The atom of a text, which is given to it unless it has one. -/
def intern (atoms : AtomTable) (text : String) : Checked (Atom × AtomTable) :=
  if atoms.contains ⟨text⟩ then return (⟨text⟩, atoms)
  else return (⟨text⟩, ← insert atoms ⟨text⟩ text)

theorem insert_eq {atoms : AtomTable} {atom : Atom}
    (unknown : atoms.get? atom = none) (text : String) :
    insert atoms atom text = .ok (atoms.insert atom text).2 := by
  rw [insert, AtomTable.insert, unknown]
  rfl

theorem intern_eq (atoms : AtomTable) (text : String) :
    intern atoms text = .ok (atoms.intern text) := by
  rw [intern, AtomTable.intern, AtomTable.insertIfAbsent]
  split_ifs with known
  · rfl
  · have unknown : atoms.get? ⟨text⟩ = none := by
      simpa [AtomTable.contains, Table.contains, AtomTable.get?] using known
    rw [insert_eq unknown]
    rfl

/-! ## Spellings -/

/-- A computation that spells, or meets with a fault. -/
abbrev SpellM : Type → Type :=
  StateT (Table Nat String) Checked

/-- The spelling kept for an id, or else the given one, which is then kept. -/
def remember (id : Nat) (spelling : SpellM String) : SpellM String := do
  match (← get).get? id with
  | some text => return text
  | none =>
      let text ← spelling
      modify fun printed => printed.insert id text
      return text

/-- The spelling of fields, each name being looked up. -/
def spellFields (atoms : AtomTable) (fields : List (Field String)) :
    Checked String := do
  let spelled ← fields.mapM fun field => do
    return (⟨⟨← lookup atoms field.name⟩, field.type⟩ : Field String)
  return TypeRules.spellFields Atom.source spelled

/-- The spelling of a kind from the spellings of its components. -/
def spellKind (atoms : AtomTable) : Kind String → Checked String
  | .struct fields => spellFields atoms fields
  | kind => return kind.spell Atom.source

mutual

/-- Spell a type, the names in it being looked up. -/
def spellType (atoms : AtomTable) (type : Ty) : SpellM String :=
  match type with
  | ⟨id, some name, _⟩ => remember id (lookup atoms name)
  | ⟨id, none, kind⟩ =>
      remember id do spellKind atoms (← spellComponents atoms kind)
termination_by structural type

/-- Spell the components of a kind. -/
def spellComponents (atoms : AtomTable) (kind : Kind Ty) :
    SpellM (Kind String) :=
  match kind with
  | .bool => return .bool
  | .string => return .string
  | .int width => return .int width
  | .uint width => return .uint width
  | .float width => return .float width
  | .pointer base => return .pointer (← spellType atoms base)
  | .array length element => return .array length (← spellType atoms element)
  | .slice element => return .slice (← spellType atoms element)
  | .struct fields => return .struct (← spellFieldTypes atoms fields)
  | .func params results =>
      return .func (← spellTypes atoms params) (← spellTypes atoms results)
  | .list types => return .list (← spellTypes atoms types)
  | .untyped constant => return .untyped constant
  | .unknown => return .unknown
  | .any => return .any
  | .void => return .void
  | .variadicAny => return .variadicAny
termination_by structural kind

/-- Spell types one after another. -/
def spellTypes (atoms : AtomTable) (types : List Ty) : SpellM (List String) :=
  match types with
  | [] => return []
  | type :: types =>
      return (← spellType atoms type) :: (← spellTypes atoms types)
termination_by structural types

/-- Spell the types of fields one after another. -/
def spellFieldTypes (atoms : AtomTable) (fields : List (Field Ty)) :
    SpellM (List (Field String)) :=
  match fields with
  | [] => return []
  | field :: fields =>
      return (← spellFieldType atoms field) :: (← spellFieldTypes atoms fields)
termination_by structural fields

/-- Spell the type of a field. -/
def spellFieldType (atoms : AtomTable) (field : Field Ty) :
    SpellM (Field String) :=
  match field with
  | ⟨name, type⟩ => return ⟨name, ← spellType atoms type⟩
termination_by structural field

end

theorem spellTypes_eq_mapM (atoms : AtomTable) (types : List Ty) :
    spellTypes atoms types = types.mapM' (spellType atoms) := by
  induction types with
  | nil => rfl
  | cons type types inductionHypothesis =>
      rw [spellTypes, inductionHypothesis]
      rfl

theorem spellFieldTypes_eq_mapM (atoms : AtomTable)
    (fields : List (Field Ty)) :
    spellFieldTypes atoms fields =
      fields.mapM' (Field.mapM (spellType atoms)) := by
  induction fields with
  | nil => rfl
  | cons field fields inductionHypothesis =>
      cases field
      rw [spellFieldTypes, inductionHypothesis]
      rfl

theorem spellComponents_eq_mapM (atoms : AtomTable) (kind : Kind Ty) :
    spellComponents atoms kind = kind.mapM (spellType atoms) := by
  cases kind with
  | struct fields =>
      rw [spellComponents, spellFieldTypes_eq_mapM]
      rfl
  | func params results =>
      rw [spellComponents, spellTypes_eq_mapM, spellTypes_eq_mapM]
      rfl
  | list types =>
      rw [spellComponents, spellTypes_eq_mapM]
      rfl
  | bool | string | int | uint | float | pointer | array | slice | untyped
  | unknown | any | void | variadicAny => rfl

/-- The strict computation does what the plain one does. -/
def Follows {α : Type} (strict : SpellM α) (plain : PrintM α) : Prop :=
  ∀ printed, strict.run printed = .ok (plain.run printed)

namespace Follows

variable {α β : Type}

theorem pure (value : α) :
    Follows (Pure.pure value : SpellM α) (Pure.pure value) := by
  intro printed
  rfl

theorem lift {checked : Checked α} {value : α} (passes : checked = .ok value) :
    Follows (liftM checked : SpellM α) (Pure.pure value) := by
  intro printed
  rw [passes]
  rfl

theorem bind {first : SpellM α} {plainFirst : PrintM α} {next : α → SpellM β}
    {plainNext : α → PrintM β} (firstFollows : Follows first plainFirst)
    (nextFollows :
      ∀ printed, Follows (next (plainFirst.run printed).1)
        (plainNext (plainFirst.run printed).1)) :
    Follows (first >>= next) (plainFirst >>= plainNext) := by
  intro printed
  rw [StateT.run_bind, firstFollows printed, ok_bind]
  exact nextFollows printed _

theorem remember (id : Nat) {spelling : SpellM String}
    {plain : PrintM String} (follows : Follows spelling plain) :
    Follows (Strict.remember id spelling) (TypeRules.remember id plain) := by
  intro printed
  rw [remember_run, Strict.remember, StateT.run_bind, StateT.run_get]
  cases kept : printed.get? id with
  | some text =>
      simp only [pure_bind, kept]
      rfl
  | none =>
      simp only [pure_bind, kept, StateT.run_bind, follows printed, ok_bind]
      rfl

end Follows

theorem lookup_eq {arena : Arena} {name : Atom} (known : arena.Knows name) :
    lookup arena.atoms name = .ok (arena.shown name) := by
  rw [lookup, Arena.shown, known]
  rfl

theorem spellFields_eq {arena : Arena} {fields : List (Field String)}
    (known : ∀ field ∈ fields, arena.Knows field.name) :
    spellFields arena.atoms fields =
      .ok (TypeRules.spellFields arena.shown fields) := by
  have looked :
      (fields.mapM fun field => do
        return (⟨⟨← lookup arena.atoms field.name⟩, field.type⟩ :
          Field String)) =
        (.ok (fields.map fun field =>
          ⟨⟨arena.shown field.name⟩, field.type⟩) : Checked _) := by
    induction fields with
    | nil => rfl
    | cons field fields inductionHypothesis =>
        rw [List.forall_mem_cons] at known
        rw [List.mapM_cons, lookup_eq known.1, inductionHypothesis known.2]
        rfl
  rw [spellFields, looked, ok_bind]
  cases fields with
  | nil => rfl
  | cons field fields =>
      simp only [TypeRules.spellFields, List.map_cons, List.map_map]
      rfl

theorem spellKind_eq {arena : Arena} {kind : Kind String}
    (known : ∀ name ∈ kind.fieldNames, arena.Knows name) :
    spellKind arena.atoms kind = .ok (kind.spell arena.shown) := by
  cases kind with
  | struct fields =>
      exact spellFields_eq fun field member =>
        known field.name (List.mem_map_of_mem member)
  | bool | string | int | uint | float | pointer | array | slice | func
  | list | untyped | unknown | any | void | variadicAny => rfl

namespace Follows

variable {arena : Arena}

theorem lockstep :
    Lockstep fun α (strict : SpellM α) (plain : PrintM α) =>
      Follows strict plain where
  pure := pure
  bind first next := bind first fun _ => next _

/-- Spelling a type of an arena meets with no fault. -/
theorem spellType (wellFormed : arena.WellFormed) {type : Ty}
    (member : type ∈ arena.types) :
    Follows (Strict.spellType arena.atoms type)
      (type.spelling arena.shown) := by
  refine lockstep.type (Strict.spellType arena.atoms)
    (Ty.spelling arena.shown)
    (fun type member => (wellFormed.fits type member).components) ?_ member
  intro type member parts
  rw [← spellComponents_eq_mapM, ← Kind.spellComponents_eq_mapM] at parts
  rcases type with ⟨id, _ | name, kind⟩
  · -- The names of the fields are looked up after the components are spelled.
    refine remember id (bind parts fun printed => lift (spellKind_eq ?_))
    rw [Kind.fieldNames_spellComponents]
    exact (wellFormed.fits _ member).known
  · exact remember id (lift (lookup_eq
      (wellFormed.named _ member name rfl).2))

theorem problem (wellFormed : arena.WellFormed) {problem : Problem Ty}
    (owned : problem.Owned (· ∈ arena.types)) :
    Follows (problem.mapM (Strict.spellType arena.atoms))
      (problem.mapM (Ty.spelling arena.shown)) :=
  lockstep.problem fun type member => spellType wellFormed (owned type member)

end Follows

end Strict

end TypeRules
