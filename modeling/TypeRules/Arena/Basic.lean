import TypeRules.Ty.Basic

/-!
# Arenas

An arena makes types and gives each a new id, in rising order.  Unnamed
numeric types and unnamed types with a single component are shared: asking for
one again gives the type that was made first.  All other types are new each
time.  An arena also knows the texts of names and the spellings it has already
worked out, which `TypeRules.Arena.Print` reads and fills.
-/

namespace TypeRules

/-- What tells one shared type from another; components count by their ids. -/
inductive InternKey where
  | int (width : Nat)
  | uint (width : Nat)
  | float (width : Nat)
  | pointer (base : Nat)
  | slice (element : Nat)
  | array (length : Nat) (element : Nat)
  deriving DecidableEq

/-- The key under which an unnamed type of the given kind is shared. -/
def Kind.internKey? : Kind Ty → Option InternKey
  | .int width => some (.int width)
  | .uint width => some (.uint width)
  | .float width => some (.float width)
  | .pointer base => some (.pointer base.id)
  | .slice element => some (.slice element.id)
  | .array length element => some (.array length element.id)
  | _ => none

/-- The names that stand for types without a declaration, with their types. -/
def predeclaredKinds : List (String × Kind Ty) :=
  [("bool", .bool), ("string", .string),
    ("int8", .int 8), ("int16", .int 16), ("int32", .int 32),
    ("int64", .int 64),
    ("uint8", .uint 8), ("uint16", .uint 16), ("uint32", .uint 32),
    ("uint64", .uint 64),
    ("float32", .float 32), ("float64", .float 64),
    ("byte", .uint 8), ("rune", .int 32), ("any", .any)]

/-- The names that stand for types without a declaration. -/
def predeclaredNames : List String :=
  predeclaredKinds.map Prod.fst

/-- The types made so far and what is known about them. -/
structure Arena where
  /-- Every type made, at the place of its id. -/
  types : Array Ty
  /-- The shared types. -/
  interned : Table InternKey Ty
  /-- The texts of names. -/
  atoms : AtomTable
  /-- The spellings worked out so far, by id. -/
  printed : Table Nat String

namespace Arena

/-- An arena with the intrinsic types only. -/
def initial : Arena where
  types := Ty.intrinsics.toArray
  interned := .empty
  atoms := AtomTable.empty.internAll predeclaredNames
  printed := .empty

/-- The id that the next type gets. -/
def nextId (arena : Arena) : Nat :=
  arena.types.size

/-- Make a type that is the same as no other. -/
def fresh (arena : Arena) (name : Option Atom) (kind : Kind Ty) :
    Ty × Arena :=
  let type : Ty := ⟨arena.nextId, name, kind⟩
  (type, { arena with types := arena.types.push type })

/-- The unnamed type of a kind: the shared one if the kind is shared. -/
def unnamed (arena : Arena) (kind : Kind Ty) : Ty × Arena :=
  match kind.internKey? with
  | none => arena.fresh none kind
  | some key =>
      match arena.interned.get? key with
      | some type => (type, arena)
      | none =>
          let (type, arena) := arena.fresh none kind
          (type, { arena with interned := arena.interned.insert key type })

/-- The pointers to a type. -/
def pointerTo (arena : Arena) (base : Ty) : Ty × Arena :=
  arena.unnamed (.pointer base)

/-- The type of the null pointer: a pointer to anything. -/
def nil (arena : Arena) : Ty × Arena :=
  arena.pointerTo Ty.any

/-- A new type for a constant. -/
def constant (arena : Arena) (value : Constant) : Ty × Arena :=
  arena.unnamed (.untyped value)

/-- The atom of a text, made known to the arena. -/
def intern (arena : Arena) (text : String) : Atom × Arena :=
  let (atom, atoms) := arena.atoms.intern text
  (atom, { arena with atoms })

/-- The text an atom is shown with; an atom the arena does not know is empty. -/
def shown (arena : Arena) (atom : Atom) : String :=
  (arena.atoms.get? atom).getD ""

/-- The type that a predeclared name stands for. -/
def predeclared? (arena : Arena) (name : String) : Option (Ty × Arena) :=
  (predeclaredKinds.lookup name).map fun kind =>
    match kind with
    | .bool => (Ty.bool, arena)
    | .string => (Ty.string, arena)
    | .any => (Ty.any, arena)
    | kind => arena.unnamed kind

end Arena

end TypeRules
