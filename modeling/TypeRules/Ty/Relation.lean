import TypeRules.Ty.Basic

/-!
# Relations between types

Besides being the same, two types can be *identical*: spelled alike, with
declared names standing for themselves.  A named type is identical only to a
type of the same name, never to the type it was declared from.  More loosely
two types can have the *same underlying* kind, which looks through declared
names but no deeper than one level: components have to be the same there.
-/

namespace TypeRules

mutual

/-- Whether two types are identical. -/
def Ty.identical (left right : Ty) : Bool :=
  match left with
  | ⟨id, name, kind⟩ =>
      id == right.id ||
        match name, right.name with
        | some leftName, some rightName => leftName == rightName
        | none, none => kind.identical right.kind
        | _, _ => false
termination_by structural left

/--
Whether two kinds are built alike from identical components.  Constants and
the marks of the checker are identical to nothing.
-/
def Kind.identical (left right : Kind Ty) : Bool :=
  match left, right with
  | .bool, .bool => true
  | .string, .string => true
  | .int leftWidth, .int rightWidth => leftWidth == rightWidth
  | .uint leftWidth, .uint rightWidth => leftWidth == rightWidth
  | .float leftWidth, .float rightWidth => leftWidth == rightWidth
  | .pointer leftBase, .pointer rightBase => leftBase.identical rightBase
  | .array leftLength leftElement, .array rightLength rightElement =>
      leftLength == rightLength && leftElement.identical rightElement
  | .slice leftElement, .slice rightElement =>
      leftElement.identical rightElement
  | .struct leftFields, .struct rightFields =>
      allFieldsIdentical leftFields rightFields
  | .func leftParams leftResults, .func rightParams rightResults =>
      allIdentical leftParams rightParams &&
        allIdentical leftResults rightResults
  | .list leftTypes, .list rightTypes => allIdentical leftTypes rightTypes
  | _, _ => false
termination_by structural left

/-- Whether two lists of types are identical one by one. -/
def allIdentical (left right : List Ty) : Bool :=
  match left, right with
  | [], [] => true
  | leftType :: leftTypes, rightType :: rightTypes =>
      leftType.identical rightType && allIdentical leftTypes rightTypes
  | _, _ => false
termination_by structural left

/-- Whether two lists of fields are identical one by one, names included. -/
def allFieldsIdentical (left right : List (Field Ty)) : Bool :=
  match left, right with
  | [], [] => true
  | leftField :: leftFields, rightField :: rightFields =>
      leftField.identical rightField &&
        allFieldsIdentical leftFields rightFields
  | _, _ => false
termination_by structural left

/-- Whether two fields have one name and identical types. -/
def Field.identical (left right : Field Ty) : Bool :=
  match left with
  | ⟨name, type⟩ => name == right.name && type.identical right.type
termination_by structural left

end

/-- Whether two kinds are alike on the outside, with the same components. -/
def Kind.sameUnderlying : Kind Ty → Kind Ty → Bool
  | .bool, .bool => true
  | .string, .string => true
  | .int leftWidth, .int rightWidth => leftWidth == rightWidth
  | .uint leftWidth, .uint rightWidth => leftWidth == rightWidth
  | .float leftWidth, .float rightWidth => leftWidth == rightWidth
  | .pointer leftBase, .pointer rightBase => leftBase.same rightBase
  | .array leftLength leftElement, .array rightLength rightElement =>
      leftLength == rightLength && leftElement.same rightElement
  | .slice leftElement, .slice rightElement => leftElement.same rightElement
  | .struct _, .struct _ => true
  | .func _ _, .func _ _ => true
  | .list _, .list _ => true
  | .untyped _, .untyped _ => true
  | .unknown, .unknown => true
  | .any, .any => true
  | .void, .void => true
  | .variadicAny, .variadicAny => true
  | _, _ => false

/-- Whether two types are alike on the outside once names are dropped. -/
def Ty.sameUnderlying (left right : Ty) : Bool :=
  left.same right || left.kind.sameUnderlying right.kind

/-- How two types are related. -/
structure Relations where
  /-- They are one and the same. -/
  same : Bool
  /-- They are identical. -/
  identical : Bool
  /-- They have the same underlying kind. -/
  underlying : Bool
  deriving DecidableEq

/-- How two types are related. -/
def Ty.relations (left right : Ty) : Relations :=
  ⟨left.same right, left.identical right, left.sameUnderlying right⟩

end TypeRules
