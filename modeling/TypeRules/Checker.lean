import TypeRules.Arena.Construct
import TypeRules.Operation
import TypeRules.Ty.Relation

/-!
# The checker

A checker owns an arena, follows one set of options and collects diagnostics.
Each operation decides its verdict first and then carries it out: it spells the
types of the problems, adds the diagnostics at the place it was given, and
makes the type of the result if there is none yet.
-/

namespace TypeRules

/-- The state of checking. -/
structure Checker where
  /-- The types made so far. -/
  arena : Arena
  /-- The rules in force. -/
  options : Options
  /-- The diagnostics not yet taken away, oldest first. -/
  diagnostics : List Diagnostic

namespace Checker

/-- A checker that has made no types and found no problems. -/
def initial (options : Options) : Checker :=
  ⟨.initial, options, []⟩

/-- Spell a type. -/
def print (checker : Checker) (type : Ty) : String × Checker :=
  let (text, arena) := checker.arena.print type
  (text, { checker with arena })

/-- Add a diagnostic for a problem. -/
def report (checker : Checker) (span : Span) (problem : Problem Ty) :
    Checker :=
  let (problem, printed) :=
    (problem.mapM (Ty.spelling checker.arena.shown)).run checker.arena.printed
  { checker with
    arena := { checker.arena with printed }
    diagnostics := checker.diagnostics ++ [⟨problem, span⟩] }

/-- Add diagnostics for several problems. -/
def reportAll (checker : Checker) (span : Span)
    (problems : List (Problem Ty)) : Checker :=
  problems.foldl (fun checker problem => checker.report span problem) checker

/-- The type of a result, made if there is none yet. -/
def realize (checker : Checker) : Result → Ty × Checker
  | .type type => (type, checker)
  | .constant constant =>
      let (type, arena) := checker.arena.constant constant
      (type, { checker with arena })
  | .pointerTo base =>
      let (type, arena) := checker.arena.pointerTo base
      (type, { checker with arena })

/-- Carry out a verdict. -/
def conclude (checker : Checker) (span : Span) (verdict : Verdict) :
    Ty × Checker :=
  (checker.reportAll span verdict.problems).realize verdict.result

/--
Whether a value of type `source` may be stored in a location of type `dest`.
The first reason why it may not is reported.
-/
def assign (checker : Checker) (span : Span) (dest source : Ty) :
    Bool × Checker :=
  match dest.obstacle? checker.options source with
  | none => (true, checker)
  | some problem => (false, checker.report span problem)

/-- The type of a binary operation. -/
def binary (checker : Checker) (span : Span) (op : BinaryOp)
    (left right : Ty) : Ty × Checker :=
  checker.conclude span (op.check checker.options left right)

/-- The type of a unary operation. -/
def unary (checker : Checker) (span : Span) (op : UnaryOp) (operand : Ty) :
    Ty × Checker :=
  checker.conclude span (op.check checker.options operand)

/-- The type of a call. -/
def call (checker : Checker) (span : Span) (callee : Ty) (args : List Ty) :
    Ty × Checker :=
  checker.conclude span (callee.checkCall checker.options args)

/-- Take the diagnostics away. -/
def takeDiagnostics (checker : Checker) : List Diagnostic × Checker :=
  (checker.diagnostics, { checker with diagnostics := [] })

end Checker

end TypeRules
