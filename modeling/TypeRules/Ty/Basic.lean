import TypeRules.Atom
import TypeRules.Constant.Basic

/-!
# Types

A type is a node with an id, an optional declared name and a kind.  The kind
says how the type is built and holds the types it is built from.  The ids make
types cheap to compare and to share: whoever makes types gives each one an id
of its own.  `Kind` is stated over an arbitrary type of components, so that the
same shapes serve for the spelling of a type from the spellings of its parts.
-/

namespace TypeRules

/-- A field of a structure. -/
structure Field (τ : Type) where
  /-- The name of the field. -/
  name : Atom
  /-- What the field holds. -/
  type : τ

/-- The ways to build a type from components. -/
inductive Kind (τ : Type) where
  | bool
  | string
  /-- A signed integer of the given number of bits. -/
  | int (width : Nat)
  /-- An unsigned integer of the given number of bits. -/
  | uint (width : Nat)
  /-- A floating-point number of the given number of bits. -/
  | float (width : Nat)
  | pointer (base : τ)
  | array (length : Nat) (element : τ)
  | slice (element : τ)
  /-- A structure with its fields in the order of their declaration. -/
  | struct (fields : List (Field τ))
  | func (params results : List τ)
  /-- Several types at once, such as the values of an assignment. -/
  | list (types : List τ)
  /-- A numeric constant that has no type yet. -/
  | untyped (constant : Constant)
  /-- The type of an expression that was already found to be wrong. -/
  | unknown
  /-- The type that accepts every value. -/
  | any
  /-- The type of a call that yields nothing. -/
  | void
  /-- The mark of a parameter that takes any number of arguments. -/
  | variadicAny

/-- A type. -/
structure Ty where
  /-- The number that tells this type from all others of its arena. -/
  id : Nat
  /-- The declared name, if the type was given one. -/
  name : Option Atom
  /-- How the type is built. -/
  kind : Kind Ty

namespace Kind

variable {τ : Type}

/-- Whether the kind is a signed or unsigned integer. -/
def isInteger : Kind τ → Bool
  | int _ | uint _ => true
  | _ => false

/-- Whether the kind is an integer or a floating-point number. -/
def isNumeric : Kind τ → Bool
  | int _ | uint _ | float _ => true
  | _ => false

/-- Whether the kind is a mark of the checker rather than a type of values. -/
def isSentinel : Kind τ → Bool
  | unknown | any | void | variadicAny => true
  | _ => false

/-- Whether the kind is that of expressions already found to be wrong. -/
def isUnknown : Kind τ → Bool
  | unknown => true
  | _ => false

/-- Whether the kind accepts every value. -/
def isAny : Kind τ → Bool
  | any => true
  | _ => false

/-- Whether the kind marks a parameter for any number of arguments. -/
def isVariadicAny : Kind τ → Bool
  | variadicAny => true
  | _ => false

/-- The constant of a kind that is one. -/
def constant? : Kind τ → Option Constant
  | untyped constant => some constant
  | _ => none

/-- The components of a kind, in the order in which they are written. -/
def components : Kind τ → List τ
  | pointer base => [base]
  | array _ element => [element]
  | slice element => [element]
  | struct fields => fields.map Field.type
  | func params results => params ++ results
  | list types => types
  | _ => []

end Kind

/-- What the field with the given name holds. -/
def Field.lookup? {τ : Type} (fields : List (Field τ)) (name : Atom) :
    Option τ :=
  (fields.find? (·.name = name)).map Field.type

namespace Ty

/-! ## The types that every arena starts with -/

/-- The type of expressions already found to be wrong. -/
def unknown : Ty :=
  ⟨0, none, .unknown⟩

/-- The type that accepts every value. -/
def any : Ty :=
  ⟨1, none, .any⟩

/-- The type of a call that yields nothing. -/
def void : Ty :=
  ⟨2, none, .void⟩

/-- The mark of a parameter for any number of arguments. -/
def variadicAny : Ty :=
  ⟨3, none, .variadicAny⟩

/-- The truth values. -/
def bool : Ty :=
  ⟨4, none, .bool⟩

/-- The strings. -/
def string : Ty :=
  ⟨5, none, .string⟩

/-- The types that every arena starts with, each at the place of its id. -/
def intrinsics : List Ty :=
  [unknown, any, void, variadicAny, bool, string]

/-- Whether two types are one and the same. -/
def same (left right : Ty) : Bool :=
  left.id == right.id

end Ty

end TypeRules
