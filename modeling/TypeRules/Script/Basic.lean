import TypeRules.Checker

/-!
# Scripts

A script drives one checker: it makes types from expressions, binds them to
names and asks questions about them.  Expressions are evaluated anew each time
they stand in a script.  Beside everything an arena makes, an expression can
set up a type by hand, with an id and a name of its own choice; the arena takes
no note of such a type.
-/

namespace TypeRules

/-- How a type is wrapped into another one, over and over. -/
inductive Wrapping where
  | pointer
  | slice
  /-- Arrays, the length being the number of the round. -/
  | array
  /-- Structures with one field `f`. -/
  | struct
  /-- Functions with one parameter and no result. -/
  | param
  /-- Functions with one result and no parameter. -/
  | result
  /-- Lists of one type. -/
  | list
  deriving DecidableEq

/-- An expression that denotes a type. -/
inductive TypeExpr where
  /-- The type bound to a name. -/
  | bound (name : String)
  | unknown
  | void
  | variadicAny
  | nil
  /-- The type that a predeclared name stands for. -/
  | predeclared (name : String)
  | int (width : Nat)
  | uint (width : Nat)
  | float (width : Nat)
  | pointer (base : TypeExpr)
  | slice (element : TypeExpr)
  | array (length : Nat) (element : TypeExpr)
  | struct (fields : List (String × TypeExpr))
  | func (params results : List TypeExpr)
  | list (types : List TypeExpr)
  /-- The constant that a literal denotes. -/
  | literal (text : String)
  | integer (value : Int128)
  | floating (value : Binary64)
  /-- A declaration of a named type. -/
  | declare (name : String) (underlying : TypeExpr)
  /-- A type set up by hand with the kind of another one. -/
  | byHand (id : Nat) (name : Option String) (model : TypeExpr)
  /-- An unnamed type set up by hand with a kind that has no components. -/
  | ofKind (id : Nat) (kind : Kind Ty)
  /-- A type wrapped the given number of times. -/
  | nest (rounds : Nat) (wrapping : Wrapping) (core : TypeExpr)
  /-- The result of a binary operation. -/
  | binary (token : String) (left right : TypeExpr)
  /-- The result of a unary operation. -/
  | unary (token : String) (operand : TypeExpr)
  /-- The result of a call. -/
  | call (callee : TypeExpr) (args : List TypeExpr)

/-- Why an expression or a step has no answer. -/
inductive ScriptError where
  | construction (error : ConstructionError)
  | unknownOperator
  | notPredeclared
  | unbound
  | notAStruct
  deriving DecidableEq

/-- The state of a script. -/
structure Session where
  /-- The checker that the script drives. -/
  checker : Checker
  /-- The types bound to names. -/
  bindings : Table String Ty
  /-- The place of everything that is given no place of its own. -/
  span : Span

/-- A part of a script; what it did up to an error stays done. -/
abbrev ScriptM : Type → Type :=
  ExceptT ScriptError (StateM Session)

namespace Session

/-- The start of a script. -/
def initial (options : Options) (span : Span) : Session :=
  ⟨.initial options, .empty, span⟩

end Session

namespace Script

/-- Let the checker do something. -/
def check {α : Type} (operation : Checker → α × Checker) : ScriptM α := do
  let session ← get
  let (result, checker) := operation session.checker
  set { session with checker }
  return result

/-- Let the arena do something that cannot fail. -/
def arrange {α : Type} (operation : Arena → α × Arena) : ScriptM α :=
  check fun checker =>
    let (result, arena) := operation checker.arena
    (result, { checker with arena })

/-- Make a type, unless that fails. -/
def construct (operation : Arena → Arena.Made) : ScriptM Ty := do
  match ← arrange operation with
  | .ok type => return type
  | .error error => throw (.construction error)

/-- The type bound to a name. -/
def lookup (name : String) : ScriptM Ty := do
  match (← get).bindings.get? name with
  | some type => return type
  | none => throw .unbound

/-- The type that a predeclared name stands for, if it is one. -/
def predeclared? (name : String) : ScriptM (Option Ty) :=
  arrange fun arena =>
    match arena.predeclared? name with
    | some (type, arena) => (some type, arena)
    | none => (none, arena)

/-- The place of an operation: its own, or else that of the script. -/
def place (own : Option Span) : ScriptM Span := do
  return own.getD (← get).span

/-- Check a binary operation. -/
def binary (own : Option Span) (token : String) (left right : Ty) :
    ScriptM Ty := do
  let span ← place own
  match BinaryOp.ofToken? token with
  | some op => check fun checker => checker.binary span op left right
  | none => throw .unknownOperator

/-- Check a unary operation. -/
def unary (own : Option Span) (token : String) (operand : Ty) :
    ScriptM Ty := do
  let span ← place own
  match UnaryOp.ofToken? token with
  | some op => check fun checker => checker.unary span op operand
  | none => throw .unknownOperator

/-- Check a call. -/
def call (own : Option Span) (callee : Ty) (args : List Ty) : ScriptM Ty := do
  let span ← place own
  check fun checker => checker.call span callee args

/-- Wrap a type once; `round` counts the times it was wrapped before. -/
def wrap (wrapping : Wrapping) (core : Ty) (round : Nat) : ScriptM Ty :=
  match wrapping with
  | .pointer => arrange fun arena => arena.pointerTo core
  | .slice => arrange fun arena => arena.unnamed (.slice core)
  | .array => arrange fun arena => arena.unnamed (.array round core)
  | .struct => construct fun arena => arena.struct [("f", core)]
  | .param => arrange fun arena => arena.unnamed (.func [core] [])
  | .result => arrange fun arena => arena.unnamed (.func [] [core])
  | .list => arrange fun arena => arena.unnamed (.list [core])

/-- Set up a type by hand. -/
def byHand (id : Nat) (name : Option String) (kind : Kind Ty) :
    ScriptM Ty := do
  match name with
  | none => return ⟨id, none, kind⟩
  | some name =>
      let atom ← arrange fun arena => arena.intern name
      return ⟨id, some atom, kind⟩

mutual

/-- Evaluate an expression, its parts from left to right. -/
def evaluate (expr : TypeExpr) : ScriptM Ty :=
  match expr with
  | .bound name => lookup name
  | .unknown => return Ty.unknown
  | .void => return Ty.void
  | .variadicAny => return Ty.variadicAny
  | .nil => arrange Arena.nil
  | .predeclared name => do
      match ← predeclared? name with
      | some type => return type
      | none => throw .notPredeclared
  | .int width => construct fun arena => arena.int width
  | .uint width => construct fun arena => arena.uint width
  | .float width => construct fun arena => arena.float width
  | .pointer base => do
      let base ← evaluate base
      arrange fun arena => arena.pointerTo base
  | .slice element => do
      let element ← evaluate element
      arrange fun arena => arena.unnamed (.slice element)
  | .array length element => do
      let element ← evaluate element
      arrange fun arena => arena.unnamed (.array length element)
  | .struct fields => do
      let fields ← evaluateFields fields
      construct fun arena => arena.struct fields
  | .func params results => do
      let params ← evaluateAll params
      let results ← evaluateAll results
      arrange fun arena => arena.unnamed (.func params results)
  | .list types => do
      let types ← evaluateAll types
      arrange fun arena => arena.unnamed (.list types)
  | .literal text => construct fun arena => arena.literal text
  | .integer value =>
      arrange fun arena => arena.constant (.ofInt128 value)
  | .floating value => construct fun arena => arena.floating value
  | .declare name underlying => do
      let underlying ← evaluate underlying
      construct fun arena => arena.declare name underlying
  | .byHand id name model => do
      let model ← evaluate model
      byHand id name model.kind
  | .ofKind id kind => byHand id none kind
  | .nest rounds wrapping core => do
      let core ← evaluate core
      (List.range rounds).foldlM (wrap wrapping) core
  | .binary token left right => do
      let left ← evaluate left
      let right ← evaluate right
      binary none token left right
  | .unary token operand => do
      let operand ← evaluate operand
      unary none token operand
  | .call callee args => do
      let callee ← evaluate callee
      let args ← evaluateAll args
      call none callee args
termination_by structural expr

/-- Evaluate expressions one after another. -/
def evaluateAll (exprs : List TypeExpr) : ScriptM (List Ty) :=
  match exprs with
  | [] => return []
  | expr :: exprs => do
      let type ← evaluate expr
      let types ← evaluateAll exprs
      return type :: types
termination_by structural exprs

/-- Evaluate the types of fields one after another. -/
def evaluateFields (fields : List (String × TypeExpr)) :
    ScriptM (List (String × Ty)) :=
  match fields with
  | [] => return []
  | field :: fields => do
      let field ← evaluateField field
      let fields ← evaluateFields fields
      return field :: fields
termination_by structural fields

/-- Evaluate the type of a field. -/
def evaluateField (field : String × TypeExpr) : ScriptM (String × Ty) :=
  match field with
  | (name, expr) => do
      let type ← evaluate expr
      return (name, type)
termination_by structural field

end

end Script

end TypeRules
