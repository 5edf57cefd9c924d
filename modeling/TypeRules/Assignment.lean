import TypeRules.Options.Basic
import TypeRules.Problem
import TypeRules.Ty.Basic

/-!
# Assignability

Whether a value of one type may be stored in a location of another depends on
the two types and on two of the options alone.  `Ty.obstacle?` gives the first
reason why it may not, going through lists of types from left to right, and
nothing if it may.
-/

namespace TypeRules

/-- The integers from the first to the second, ends included. -/
structure IntRange where
  /-- The least integer of the range. -/
  least : Int
  /-- The greatest integer of the range. -/
  greatest : Int
  deriving DecidableEq

/-- Whether an integer lies in the range. -/
def IntRange.contains (range : IntRange) (value : Int) : Bool :=
  range.least ≤ value ∧ value ≤ range.greatest

/-- The integers of a signed type of the given width. -/
def IntRange.signed (width : Nat) : IntRange :=
  let half : Int := Nat.pow 2 (width - 1)
  ⟨-half, half - 1⟩

/-- The integers of an unsigned type of the given width. -/
def IntRange.unsigned (width : Nat) : IntRange :=
  ⟨0, Nat.pow 2 width - 1⟩

/-- The widths that hold constants at all. -/
def holdsConstants (width : Nat) : Bool :=
  1 ≤ width && width ≤ 64

/-- The constants that an integer kind accepts, if it is one and accepts any. -/
def Kind.constantRange? (options : Options) : Kind Ty → Option IntRange
  | .int width =>
      if holdsConstants width then some (.signed width) else none
  | .uint width =>
      if holdsConstants width then
        match options.unsignedRange with
        | .exact => some (.unsigned width)
        | .signed => some (.signed width)
      else none
  | _ => none

/-- Whether a kind is a pointer to anything, such as the null pointer. -/
def Kind.isPointerToAny : Kind Ty → Bool
  | .pointer base => base.kind.isAny
  | _ => false

/-- Whether a kind is a pointer. -/
def Kind.isPointer : Kind Ty → Bool
  | .pointer _ => true
  | _ => false

/-- Whether two types are assignable before their shapes are compared. -/
def Ty.acceptsOutright (options : Options) (dest source : Ty) : Bool :=
  dest.same source || dest.kind.isUnknown || dest.kind.isAny ||
    source.kind.isUnknown ||
    (options.nilPointer && dest.kind.isPointer && source.kind.isPointerToAny)

/-- Why a constant may not be stored in a location, if it may not. -/
def Ty.constantObstacle? (options : Options) (dest source : Ty)
    (constant : Constant) : Option (Problem Ty) :=
  match dest.kind with
  | .float _ => none
  | .int _ | .uint _ =>
      if !constant.isIntegral then some (.truncated constant.text dest)
      else if (dest.kind.constantRange? options).any
          (·.contains constant.toInt128.toInt) then none
      else some (.overflows constant.text dest)
  | _ => some (.incompatible source dest)

mutual

/--
The first reason why a value of type `source` may not be stored in a location
of type `dest`.
-/
def Ty.obstacle? (options : Options) (dest source : Ty) :
    Option (Problem Ty) :=
  match source with
  | ⟨id, name, kind⟩ =>
      if dest.acceptsOutright options ⟨id, name, kind⟩ then none
      else kind.obstacle? options dest ⟨id, name, kind⟩
termination_by structural source

/--
The first reason why a source of the given kind may not be stored in a
location, where the two are not assignable outright.
-/
def Kind.obstacle? (options : Options) (dest source : Ty) (kind : Kind Ty) :
    Option (Problem Ty) :=
  match kind with
  | .untyped constant => dest.constantObstacle? options source constant
  | .list sources =>
      match dest.kind with
      | .array _ element => eachObstacle? options element sources
      | .slice element => eachObstacle? options element sources
      | .list dests =>
          if dests.length = sources.length then
            pairwiseObstacle? options dests sources
          else some (.lengthMismatch dests.length sources.length)
      | _ => some (.incompatible source dest)
  | _ => some (.incompatible source dest)
termination_by structural kind

/-- The first obstacle to storing each of several sources in one type. -/
def eachObstacle? (options : Options) (dest : Ty) (sources : List Ty) :
    Option (Problem Ty) :=
  match sources with
  | [] => none
  | source :: sources =>
      match dest.obstacle? options source with
      | some problem => some problem
      | none => eachObstacle? options dest sources
termination_by structural sources

/-- The first obstacle to storing each source in the type opposite to it. -/
def pairwiseObstacle? (options : Options) (dests sources : List Ty) :
    Option (Problem Ty) :=
  match sources with
  | [] => none
  | source :: sources =>
      match dests with
      | [] => none
      | dest :: dests =>
          match dest.obstacle? options source with
          | some problem => some problem
          | none => pairwiseObstacle? options dests sources
termination_by structural sources

end

/-- Whether a value of type `source` may be stored in a location of `dest`. -/
def Ty.accepts (options : Options) (dest source : Ty) : Bool :=
  (dest.obstacle? options source).isNone

end TypeRules
