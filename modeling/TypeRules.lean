import TypeRules.Table
import TypeRules.Atom
import TypeRules.Span
import TypeRules.Int128
import TypeRules.Binary64.Basic
import TypeRules.Binary64.Rounding
import TypeRules.Binary64.Arithmetic
import TypeRules.Decimal.Shortest
import TypeRules.Decimal.Layout
import TypeRules.Decimal.Reader
import TypeRules.Operator
import TypeRules.Constant.Basic
import TypeRules.Constant.Literal
import TypeRules.Constant.Fold
import TypeRules.Ty.Basic
import TypeRules.Ty.Induction
import TypeRules.Ty.Spelling
import TypeRules.Ty.Relation
import TypeRules.Arena.Basic
import TypeRules.Arena.Print
import TypeRules.Arena.Construct
import TypeRules.Json.Basic
import TypeRules.Json.Token
import TypeRules.Json.Reader
import TypeRules.Options.Basic
import TypeRules.Options.Reader
import TypeRules.Problem
import TypeRules.Assignment
import TypeRules.Operation
import TypeRules.Checker
import TypeRules.Script.Basic
import TypeRules.Script.Step
import TypeRules.Proofs.WordArithmetic
import TypeRules.Proofs.Reporting
import TypeRules.Proofs.Expressions
import TypeRules.Proofs.ExactFolding
import TypeRules.Proofs.Traversal
import TypeRules.Proofs.ArenaInvariant
import TypeRules.Proofs.Provenance
import TypeRules.Proofs.Runs
import TypeRules.Proofs.HashConsing
import TypeRules.Proofs.Assignability
import TypeRules.Proofs.Stepwise
import TypeRules.Proofs.FirstClash
import TypeRules.Proofs.Identity
import TypeRules.Proofs.OperatorTyping
import TypeRules.Proofs.Rendering
import TypeRules.Proofs.Transparency
import TypeRules.Proofs.WrittenForm
import TypeRules.Proofs.Unambiguity
import TypeRules.Proofs.Faults
import TypeRules.Proofs.StrictVerdicts
import TypeRules.Proofs.StrictSpelling
import TypeRules.Proofs.StrictRuns
import TypeRules.Proofs.AssignmentOptions
import TypeRules.Proofs.OperatorOptions
import TypeRules.Proofs.Renumbering
import TypeRules.Proofs.DiagnosticOrder
import TypeRules.Proofs.CallOutcome
import TypeRules.Proofs.FoldingFailures
import TypeRules.Proofs.IntegerLiterals
import TypeRules.Proofs.ReadingBack
import TypeRules.Proofs.Separators
import TypeRules.Proofs.RadixLiterals
import TypeRules.Proofs.Representability
import TypeRules.Proofs.CallsAndLists
import TypeRules.Proofs.Underlying
import TypeRules.Proofs.Addresses
import TypeRules.Proofs.Structures
import TypeRules.Proofs.ConstantForms
import TypeRules.Proofs.Suppression
import TypeRules.Proofs.Adjustments
import TypeRules.Proofs.SettingsReading
import TypeRules.Proofs.ExactValues
import TypeRules.Proofs.Integrality
