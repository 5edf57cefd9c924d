import TypeRules.Script.Basic

/-!
# Steps of a script

Each step evaluates its expressions, does one thing with the checker and gives
an answer or an error.  The outcome also lists the diagnostics that the step
has added, whether it succeeded or not.  A step that fails binds nothing.
-/

namespace TypeRules

/-- One step of a script. -/
inductive Step where
  /-- Bind the type of an expression to a name. -/
  | bind (name : String) (expr : TypeExpr)
  /-- Check a binary operation and bind the result if a name is given. -/
  | binary (span : Option Span) (token : String) (left right : TypeExpr)
      (name : Option String)
  /-- Check a unary operation and bind the result if a name is given. -/
  | unary (span : Option Span) (token : String) (operand : TypeExpr)
      (name : Option String)
  /-- Check a call and bind the result if a name is given. -/
  | call (span : Option Span) (callee : TypeExpr) (args : List TypeExpr)
      (name : Option String)
  /-- Ask whether one type accepts another. -/
  | assign (span : Option Span) (dest source : TypeExpr)
  /-- Ask how two types are related. -/
  | relate (left right : TypeExpr)
  /-- Ask how each of several types is related to each. -/
  | relateAll (exprs : List TypeExpr)
  /-- Look at a type. -/
  | inspect (expr : TypeExpr)
  /-- Look up a field of a structure. -/
  | field (expr : TypeExpr) (name : String)
  /-- Look up a predeclared name. -/
  | predeclared (name : String)
  /-- Count the diagnostics not yet taken away. -/
  | count
  /-- Take the diagnostics away. -/
  | take

/-- A type together with its spelling. -/
structure Described where
  /-- The type. -/
  type : Ty
  /-- How it is spelled. -/
  spelling : String

/-- The answer of a step. -/
inductive Answer where
  /-- The type that was made or that an operation yields. -/
  | type (described : Described)
  /-- Whether one type accepts another. -/
  | assignable (accepted : Bool)
  /-- How two types are related. -/
  | related (relations : Relations)
  /-- How each of several types is related to each, row by row. -/
  | allRelated (rows : List (List Relations))
  /-- The type that was looked at. -/
  | inspected (described : Described)
  /-- The type of a field, if there is such a field. -/
  | field (found : Option Described)
  /-- The type of a predeclared name, if it is one. -/
  | predeclared (found : Option Described)
  /-- The number of diagnostics not yet taken away. -/
  | count (diagnostics : Nat)
  /-- The diagnostics taken away. -/
  | taken (diagnostics : List Diagnostic)

/-- What a step comes to. -/
structure Outcome where
  /-- The answer, or why there is none. -/
  answer : Except ScriptError Answer
  /-- The diagnostics added by the step. -/
  added : List Diagnostic

namespace Script

/-- Spell a type. -/
def describe (type : Ty) : ScriptM Described := do
  let spelling ← check fun checker => checker.print type
  return ⟨type, spelling⟩

/-- Spell a type if there is one. -/
def describe? : Option Ty → ScriptM (Option Described)
  | none => return none
  | some type => some <$> describe type

/-- Bind a type to a name, if one is given. -/
def bindTo (name : Option String) (type : Ty) : ScriptM Unit :=
  match name with
  | none => return ()
  | some name =>
      modify fun session =>
        { session with bindings := session.bindings.insert name type }

/-- Bind a type and answer with it. -/
def yield (name : Option String) (type : Ty) : ScriptM Answer := do
  bindTo name type
  .type <$> describe type

/-- The fields of a structure. -/
def fieldsOf (type : Ty) : ScriptM (List (Field Ty)) :=
  match type.kind with
  | .struct fields => return fields
  | _ => throw .notAStruct

/-- Do what a step says. -/
def perform : Step → ScriptM Answer
  | .bind name expr => do
      yield (some name) (← evaluate expr)
  | .binary span token left right name => do
      let left ← evaluate left
      let right ← evaluate right
      yield name (← binary span token left right)
  | .unary span token operand name => do
      let operand ← evaluate operand
      yield name (← unary span token operand)
  | .call span callee args name => do
      let callee ← evaluate callee
      let args ← evaluateAll args
      yield name (← call span callee args)
  | .assign own dest source => do
      let dest ← evaluate dest
      let source ← evaluate source
      let span ← place own
      .assignable <$> check fun checker => checker.assign span dest source
  | .relate left right => do
      let left ← evaluate left
      let right ← evaluate right
      return .related (left.relations right)
  | .relateAll exprs => do
      let types ← evaluateAll exprs
      return .allRelated (types.map fun left => types.map left.relations)
  | .inspect expr => do
      .inspected <$> describe (← evaluate expr)
  | .field expr name => do
      let fields ← fieldsOf (← evaluate expr)
      .field <$> describe? (Field.lookup? fields ⟨name⟩)
  | .predeclared name => do
      .predeclared <$> describe? (← predeclared? name)
  | .count => return .count (← get).checker.diagnostics.length
  | .take => .taken <$> check Checker.takeDiagnostics

/-- Run one step. -/
def runStep (step : Step) : StateM Session Outcome := do
  let before := (← get).checker.diagnostics.length
  let answer ← (perform step).run
  return ⟨answer, (← get).checker.diagnostics.drop before⟩

/-- Run a script from its start. -/
def run (options : Options) (span : Span) (steps : List Step) :
    List Outcome :=
  ((steps.mapM runStep).run (.initial options span)).1

end Script

end TypeRules
