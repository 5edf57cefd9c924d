import TypeRules.Arena.Basic
import TypeRules.Ty.Spelling

/-!
# Spelling types

A type with a declared name is spelled by its name, any other by its kind with
its components spelled first, in the order in which they are written.  A
spelling once worked out is kept under the id of its type, and that id is
spelled so from then on.
-/

namespace TypeRules

/-- A computation that reads and fills the spellings kept by id. -/
abbrev PrintM : Type → Type :=
  StateM (Table Nat String)

/-- The spelling kept for an id, or else the given one, which is then kept. -/
def remember (id : Nat) (spelling : PrintM String) : PrintM String := do
  match (← get).get? id with
  | some text => return text
  | none =>
      let text ← spelling
      modify fun printed => printed.insert id text
      return text

mutual

/-- Spell a type, names being shown as `shown` says. -/
def Ty.spelling (shown : Atom → String) (type : Ty) : PrintM String :=
  match type with
  | ⟨id, some name, _⟩ => remember id (pure (shown name))
  | ⟨id, none, kind⟩ =>
      remember id do return (← kind.spellComponents shown).spell shown
termination_by structural type

/-- Spell the components of a kind. -/
def Kind.spellComponents (shown : Atom → String) (kind : Kind Ty) :
    PrintM (Kind String) :=
  match kind with
  | .bool => return .bool
  | .string => return .string
  | .int width => return .int width
  | .uint width => return .uint width
  | .float width => return .float width
  | .pointer base => return .pointer (← base.spelling shown)
  | .array length element => return .array length (← element.spelling shown)
  | .slice element => return .slice (← element.spelling shown)
  | .struct fields => return .struct (← fieldSpellings shown fields)
  | .func params results =>
      return .func (← spellings shown params) (← spellings shown results)
  | .list types => return .list (← spellings shown types)
  | .untyped constant => return .untyped constant
  | .unknown => return .unknown
  | .any => return .any
  | .void => return .void
  | .variadicAny => return .variadicAny
termination_by structural kind

/-- Spell types one after another. -/
def spellings (shown : Atom → String) (types : List Ty) :
    PrintM (List String) :=
  match types with
  | [] => return []
  | type :: types =>
      return (← type.spelling shown) :: (← spellings shown types)
termination_by structural types

/-- Spell the types of fields one after another. -/
def fieldSpellings (shown : Atom → String) (fields : List (Field Ty)) :
    PrintM (List (Field String)) :=
  match fields with
  | [] => return []
  | field :: fields =>
      return (← field.spelling shown) :: (← fieldSpellings shown fields)
termination_by structural fields

/-- Spell the type of a field. -/
def Field.spelling (shown : Atom → String) (field : Field Ty) :
    PrintM (Field String) :=
  match field with
  | ⟨name, type⟩ => return ⟨name, ← type.spelling shown⟩
termination_by structural field

end

/-- Spell a type with the spellings and names of an arena. -/
def Arena.print (arena : Arena) (type : Ty) : String × Arena :=
  let (text, printed) := (type.spelling arena.shown).run arena.printed
  (text, { arena with printed })

end TypeRules
