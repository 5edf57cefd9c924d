import TypeRules.Arena.Print
import TypeRules.Constant.Literal

/-!
# Constructions that can fail

Not every width, list of fields, literal or declaration makes a type.  A
construction that fails says why and takes no id.  It may still have made
names known or have worked out a spelling, so it yields an arena as well.
-/

namespace TypeRules

/-- Why a type could not be made. -/
inductive ConstructionError where
  | unsupportedIntWidth (width : Nat)
  | unsupportedFloatWidth (width : Nat)
  | duplicateField (name : String)
  | invalidLiteral (text : String)
  | notFinite (value : Binary64)
  | cannotName (spelling : String)
  deriving DecidableEq

/-- The sentence that explains a failed construction. -/
def ConstructionError.message : ConstructionError → String
  | .unsupportedIntWidth width =>
      "Integer types of " ++ toString width ++ " bits are not supported."
  | .unsupportedFloatWidth width =>
      "Floating-point types of " ++ toString width ++
        " bits are not supported."
  | .duplicateField name => "Duplicate field '" ++ name ++ "'."
  | .invalidLiteral text => "'" ++ text ++ "' is not a valid number literal."
  | .notFinite value => "Constant value " ++ value.text ++ " is not finite."
  | .cannotName spelling =>
      "Type '" ++ spelling ++ "' cannot be given a name."

/-- Whether there are integer types of the given width. -/
def isIntWidth (width : Nat) : Bool :=
  [8, 16, 32, 64].contains width

/-- Whether there are floating-point types of the given width. -/
def isFloatWidth (width : Nat) : Bool :=
  [32, 64].contains width

/-- Whether a declaration may give a name to types of this kind. -/
def Kind.canBeNamed : Kind Ty → Bool
  | .list _ | .untyped _ => false
  | kind => !kind.isSentinel

namespace Arena

/-- What a construction yields beside the arena. -/
abbrev Made : Type :=
  Except ConstructionError Ty × Arena

/-- A construction that succeeded. -/
def made (result : Ty × Arena) : Made :=
  (.ok result.1, result.2)

/-- The signed integers of the given width. -/
def int (arena : Arena) (width : Nat) : Made :=
  if isIntWidth width then made (arena.unnamed (.int width))
  else (.error (.unsupportedIntWidth width), arena)

/-- The unsigned integers of the given width. -/
def uint (arena : Arena) (width : Nat) : Made :=
  if isIntWidth width then made (arena.unnamed (.uint width))
  else (.error (.unsupportedIntWidth width), arena)

/-- The floating-point numbers of the given width. -/
def float (arena : Arena) (width : Nat) : Made :=
  if isFloatWidth width then made (arena.unnamed (.float width))
  else (.error (.unsupportedFloatWidth width), arena)

/--
Add fields to earlier ones, each name being interned when its turn comes.  A
name that an earlier field has ends this, and the names after it stay unknown.
-/
def addFields (arena : Arena) (earlier : List (Field Ty)) :
    List (String × Ty) →
      Except ConstructionError (List (Field Ty)) × Arena
  | [] => (.ok earlier, arena)
  | (name, type) :: fields =>
      let (atom, arena) := arena.intern name
      if earlier.any (·.name = atom) then
        (.error (.duplicateField name), arena)
      else arena.addFields (earlier ++ [⟨atom, type⟩]) fields

/-- A new structure with the given fields, whose names have to differ. -/
def struct (arena : Arena) (fields : List (String × Ty)) : Made :=
  match arena.addFields [] fields with
  | (.ok fields, arena) => made (arena.unnamed (.struct fields))
  | (.error error, arena) => (.error error, arena)

/-- A new type for the constant that a literal denotes. -/
def literal (arena : Arena) (text : String) : Made :=
  match Constant.ofLiteral? text with
  | some value => made (arena.constant value)
  | none => (.error (.invalidLiteral text), arena)

/-- A new type for a constant of floating form. -/
def floating (arena : Arena) (value : Binary64) : Made :=
  match Constant.ofBinary64? value with
  | some value => made (arena.constant value)
  | none => (.error (.notFinite value), arena)

/-- Declare a new type of the given name and of the kind of another type. -/
def declare (arena : Arena) (name : String) (underlying : Ty) : Made :=
  if underlying.kind.canBeNamed then
    let (atom, arena) := arena.intern name
    made (arena.fresh (some atom) underlying.kind)
  else
    let (spelling, arena) := arena.print underlying
    (.error (.cannotName spelling), arena)

end Arena

end TypeRules
