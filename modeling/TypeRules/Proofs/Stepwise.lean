import Mathlib.Tactic.SplitIfs
import TypeRules.Checker
import TypeRules.Ty.Induction

/-!
# Checking step by step

The checker first decides a verdict, from types and options alone, and then
carries it out.  Here its operations go through the types with the checker for
their state.  They ask for the options when they need them, and where they meet
with a problem they spell its types, from left to right, and push a diagnostic
at the place they were handed.

A problem can be met with at any depth: in a part of a list within a list, or in
an argument of a call.  It is reported there and then, so that going on where
one should stop, or reporting once more on the way out, would show in the
diagnostics.  The main results say that this never happens: the steps come to
the same answer, and to the same checker, as carrying out the verdict.
-/

namespace TypeRules

namespace Stepwise

/-- A computation with a checker for its state. -/
abbrev CheckM : Type → Type :=
  StateM Checker

/-! ## Steps -/

/-- Spell a type. -/
def print (type : Ty) : CheckM String :=
  modifyGet fun checker => checker.print type

/-- Add a diagnostic. -/
def push (span : Span) (problem : Problem String) : CheckM Unit :=
  modify fun checker =>
    { checker with
      diagnostics := checker.diagnostics ++ [⟨problem, span⟩] }

/-- The new type of a constant. -/
def constant (value : Constant) : CheckM Ty :=
  modifyGet fun checker => checker.realize (.constant value)

/-- The pointers to a type. -/
def pointerTo (base : Ty) : CheckM Ty :=
  modifyGet fun checker => checker.realize (.pointerTo base)

/-! ## Assignments -/

/-- Report that a value cannot be stored in a location. -/
def reportIncompatible (span : Span) (dest source : Ty) : CheckM Unit := do
  push span (.incompatible (← print source) (← print dest))

/-- Whether a constant may be stored in a location. -/
def assignConstant (span : Span) (dest source : Ty) (constant : Constant) :
    CheckM Bool :=
  match dest.kind with
  | .float _ => return true
  | .int _ | .uint _ => do
      if !constant.isIntegral then
        push span (.truncated constant.text (← print dest))
        return false
      else if (dest.kind.constantRange? (← get).options).any
          (·.contains constant.toInt128.toInt) then
        return true
      else
        push span (.overflows constant.text (← print dest))
        return false
  | _ => do
      reportIncompatible span dest source
      return false

mutual

/-- Whether a value may be stored in a location. -/
def assign (span : Span) (dest source : Ty) : CheckM Bool :=
  match source with
  | ⟨id, name, kind⟩ => do
      if dest.acceptsOutright (← get).options ⟨id, name, kind⟩ then
        return true
      else assignKind span dest ⟨id, name, kind⟩ kind
termination_by structural source

/-- Whether it may, where the two are not assignable outright. -/
def assignKind (span : Span) (dest source : Ty) (kind : Kind Ty) :
    CheckM Bool :=
  match kind with
  | .untyped constant => assignConstant span dest source constant
  | .list sources =>
      match dest.kind with
      | .array _ element => assignEach span element sources
      | .slice element => assignEach span element sources
      | .list dests =>
          if dests.length = sources.length then
            assignPairwise span dests sources
          else do
            push span (.lengthMismatch dests.length sources.length)
            return false
      | _ => do
          reportIncompatible span dest source
          return false
  | _ => do
      reportIncompatible span dest source
      return false
termination_by structural kind

/-- Whether each of several values may be stored, up to the first not. -/
def assignEach (span : Span) (dest : Ty) (sources : List Ty) : CheckM Bool :=
  match sources with
  | [] => return true
  | source :: sources => do
      if ← assign span dest source then assignEach span dest sources
      else return false
termination_by structural sources

/-- Whether each value may be stored opposite to it, up to the first not. -/
def assignPairwise (span : Span) (dests sources : List Ty) : CheckM Bool :=
  match sources with
  | [] => return true
  | source :: sources =>
      match dests with
      | [] => return true
      | dest :: dests => do
          if ← assign span dest source then assignPairwise span dests sources
          else return false
termination_by structural sources

end

/-! ## Folding -/

/-- Report that a constant cannot be held. -/
def reportOverflow (span : Span) (expression : String) : CheckM Ty := do
  push span (.folding (.overflow expression))
  return Ty.unknown

/-- Fold two constants by their integer values. -/
def foldIntegers (span : Span) (op : BinaryOp) (left right : Constant) :
    CheckM Ty :=
  match op.onIntegers left.toInt128 right.toInt128 with
  | .ok value => constant (.ofInt128 value)
  | .error .outOfRange =>
      reportOverflow span (Constant.expression op left right)
  | .error .zeroDivisor => do
      push span (.folding .divisionByZero)
      return Ty.unknown

/-- Fold two constants in double precision. -/
def foldDoubles (span : Span) (op : BinaryOp)
    (operation : Binary64 → Binary64 → Binary64) (left right : Constant) :
    CheckM Ty :=
  if op = .div ∧ right.toBinary64.isZero then do
    push span (.folding .divisionByZero)
    return Ty.unknown
  else
    match Constant.ofBinary64?
        (operation left.toBinary64 right.toBinary64) with
    | some value => constant value
    | none => reportOverflow span (Constant.expression op left right)

/-- Fold two constants, where folding applies. -/
def fold? (span : Span) (op : BinaryOp) (left right : Constant) :
    CheckM (Option Ty) :=
  match op.onDoubles? with
  | some operation =>
      if left.isExactInteger && right.isExactInteger then
        some <$> foldIntegers span op left right
      else some <$> foldDoubles span op operation left right
  | none =>
      if !left.isIntegral then return none
      else if op.isShift then
        if right.isIntegral && 0 ≤ right.toInt128.toInt then
          some <$> foldIntegers span op left right
        else do
          push span (.folding (.invalidShiftCount right.text))
          return some Ty.unknown
      else if right.isIntegral then some <$> foldIntegers span op left right
      else return none

/-- Negate a constant in its own form. -/
def negate (span : Span) (operand : Constant) : CheckM Ty :=
  if operand.isExactInteger then
    match operand.toInt128.neg? with
    | some value => constant (.ofInt128 value)
    | none => reportOverflow span ("-" ++ operand.text)
  else
    match Constant.ofBinary64? operand.toBinary64.neg with
    | some value => constant value
    | none => reportOverflow span ("-" ++ operand.text)

/-! ## Operators -/

/-- Report that an operator is not defined on a type. -/
def refuse (span : Span) (token : String) (operand : Ty) : CheckM Ty := do
  push span (.operatorOnType token (← print operand))
  return Ty.unknown

/-- Apply a binary operator to operands that go together. -/
def apply (span : Span) (op : BinaryOp) (subject left right : Ty) :
    CheckM Ty := do
  if op.isShift then
    if left.kind.isShiftable &&
        right.kind.isShiftCount (← get).options then
      return left
    else
      push span (.operatorOnTypes op.token (← print left) (← print right))
      return Ty.unknown
  else if op.appliesTo subject.kind then return subject
  else refuse span op.token subject

/-- Check a binary operator on operands that are not both constants. -/
def checkTyped (span : Span) (op : BinaryOp) (left right : Ty) :
    CheckM Ty := do
  let options := (← get).options
  let converts :=
    options.untypedOperandConversion && left.kind.constant?.isSome &&
      !op.isShift
  let subject := if converts then right else left
  let other := if converts then left else right
  if op.isShift && options.shiftOperandsExempt then
    apply span op subject left right
  else if ← assign span subject other then apply span op subject left right
  else
    push span (.mismatchedOperands (← print left) (← print right))
    return Ty.unknown

/-- The type of a binary operation. -/
def binary (span : Span) (op : BinaryOp) (left right : Ty) : CheckM Ty :=
  if left.kind.isUnknown || right.kind.isUnknown then return Ty.unknown
  else
    match left.kind.constant?, right.kind.constant? with
    | some leftConstant, some rightConstant => do
        match ← fold? span op leftConstant rightConstant with
        | some folded => return folded
        | none => apply span op left left right
    | _, _ => checkTyped span op left right

/-- The type of a unary operation on an operand that is not already wrong. -/
def unaryKnown (span : Span) (op : UnaryOp) (operand : Ty) : CheckM Ty :=
  match op with
  | .plus =>
      if operand.kind.isNumeric || operand.kind.constant?.isSome then
        return operand
      else refuse span op.token operand
  | .minus =>
      match operand.kind.constant? with
      | some value => negate span value
      | none =>
          if operand.kind.isNumeric then return operand
          else refuse span op.token operand
  | .not =>
      match operand.kind with
      | .bool => return operand
      | _ => refuse span op.token operand
  | .bitNot =>
      match operand.kind.constant? with
      | some value =>
          if value.isExactInteger then
            constant (.ofInt128 value.toInt128.complement)
          else refuse span op.token operand
      | none =>
          if operand.kind.isInteger then return operand
          else refuse span op.token operand
  | .deref =>
      match operand.kind with
      | .pointer base => return base
      | _ => refuse span op.token operand
  | .addressOf =>
      match operand.kind with
      | .pointer _ | .slice _ => do
          if (← get).options.addressOfYieldsPointer then pointerTo operand
          else return Ty.unknown
      | _ => refuse span op.token operand

/-- The type of a unary operation. -/
def unary (span : Span) (op : UnaryOp) (operand : Ty) : CheckM Ty :=
  if operand.kind.isUnknown then return Ty.unknown
  else unaryKnown span op operand

/-! ## Calls -/

/--
Store arguments in the parameters from an index on.  The result is the index
where this ended.
-/
def passArguments (span : Span) (params : List Ty) (count index : Nat) :
    List Ty → CheckM Nat
  | [] => return index
  | arg :: args =>
      match params[index]? with
      | none => do
          push span (.tooManyArguments params.length count)
          return index
      | some param =>
          if param.kind.isVariadicAny then return index
          else do
            let _ ← assign span param arg
            passArguments span params count (index + 1) args

/-- Report too few arguments, where passing them ended at an index. -/
def reportShortage (span : Span) (params : List Ty) (count index : Nat) :
    CheckM Unit := do
  if count < params.length then
    if (params[index]?).any (·.kind.isVariadicAny) then return ()
    else push span (.tooFewArguments params.length count)

/-- The type of a call. -/
def call (span : Span) (callee : Ty) (args : List Ty) : CheckM Ty :=
  match callee.kind with
  | .unknown => return Ty.unknown
  | .func params results => do
      let last ← passArguments span params args.length 0 args
      reportShortage span params args.length last
      return results.head?.getD Ty.void
  | _ => do
      push span (.notCallable (← print callee))
      return Ty.unknown

end Stepwise

/-! ## What the steps come to -/

/-- The answer to whether there is an obstacle, which is reported. -/
def Checker.settle (checker : Checker) (span : Span) :
    Option (Problem Ty) → Bool × Checker
  | none => (true, checker)
  | some problem => (false, checker.report span problem)

namespace Stepwise

variable (span : Span) (checker : Checker)

theorem assignConstant_run (dest source : Ty) (constant : Constant) :
    (assignConstant span dest source constant).run checker =
      checker.settle span
        (dest.constantObstacle? checker.options source constant) := by
  rcases dest with ⟨id, name, kind⟩
  cases kind with
  | int width | uint width =>
      simp only [assignConstant, Ty.constantObstacle?]
      split_ifs with fractional fits
      · rfl
      · simp only [StateT.run_bind, StateT.run_get, pure_bind, if_pos fits]
        rfl
      · simp only [StateT.run_bind, StateT.run_get, pure_bind, if_neg fits]
        rfl
  | bool | string | float | pointer | array | slice | struct | func | list
  | untyped | unknown | any | void | variadicAny => rfl

/-- Of two steps the second is taken if the first meets with no obstacle. -/
theorem andThen_run {step next : CheckM Bool}
    {first? second? : Option (Problem Ty)}
    (first : step.run checker = checker.settle span first?)
    (second : next.run checker = checker.settle span second?) :
    (do if ← step then next else return false : CheckM Bool).run checker =
      checker.settle span (first?.or second?) := by
  rw [StateT.run_bind, first]
  cases first? with
  | none => exact second
  | some problem => rfl

theorem assignEach_run {dest : Ty} {sources : List Ty}
    (each :
      ∀ source ∈ sources,
        (assign span dest source).run checker =
          checker.settle span (dest.obstacle? checker.options source)) :
    (assignEach span dest sources).run checker =
      checker.settle span (eachObstacle? checker.options dest sources) := by
  induction sources with
  | nil => rfl
  | cons source sources inductionHypothesis =>
      rw [List.forall_mem_cons] at each
      rw [assignEach,
        andThen_run span checker each.1 (inductionHypothesis each.2),
        eachObstacle?]
      cases dest.obstacle? checker.options source <;> rfl

theorem assignPairwise_run {dests sources : List Ty}
    (each :
      ∀ source ∈ sources, ∀ dest,
        (assign span dest source).run checker =
          checker.settle span (dest.obstacle? checker.options source)) :
    (assignPairwise span dests sources).run checker =
      checker.settle span
        (pairwiseObstacle? checker.options dests sources) := by
  induction sources generalizing dests with
  | nil => rfl
  | cons source sources inductionHypothesis =>
      rw [List.forall_mem_cons] at each
      cases dests with
      | nil => rfl
      | cons dest dests =>
          rw [assignPairwise,
            andThen_run span checker (each.1 dest)
              (inductionHypothesis each.2),
            pairwiseObstacle?]
          cases dest.obstacle? checker.options source <;> rfl

/-- Steps report the first obstacle there is, and nothing but that. -/
theorem assign_settles (dest source : Ty) :
    (assign span dest source).run checker =
      checker.settle span (dest.obstacle? checker.options source) := by
  induction source using Ty.induction_on_components generalizing dest with
  | step source inductionHypothesis =>
      rcases source with ⟨id, name, kind⟩
      rw [assign, Ty.obstacle?]
      simp only [StateT.run_bind, StateT.run_get, pure_bind]
      split_ifs
      · rfl
      cases kind with
      | untyped constant =>
          exact assignConstant_run span checker dest _ constant
      | list sources =>
          rcases dest with ⟨destId, destName, destKind⟩
          cases destKind with
          | array length element =>
              exact assignEach_run span checker fun source member =>
                inductionHypothesis source member element
          | slice element =>
              exact assignEach_run span checker fun source member =>
                inductionHypothesis source member element
          | list dests =>
              simp only [assignKind, Kind.obstacle?]
              split_ifs
              · exact assignPairwise_run span checker inductionHypothesis
              · rfl
          | bool | string | int | uint | float | pointer | struct | func
          | untyped | unknown | any | void | variadicAny => rfl
      | bool | string | int | uint | float | pointer | array | slice | struct
      | func | unknown | any | void | variadicAny => rfl

/-- An assignment in steps is an assignment. -/
theorem assign_run (dest source : Ty) :
    (assign span dest source).run checker =
      checker.assign span dest source := by
  rw [assign_settles, Checker.assign]
  cases dest.obstacle? checker.options source <;> rfl

theorem foldIntegers_run (op : BinaryOp) (left right : Constant) :
    (foldIntegers span op left right).run checker =
      checker.conclude span
        (.ofFold (Constant.foldIntegers op left right)) := by
  rw [foldIntegers, Constant.foldIntegers]
  cases op.onIntegers left.toInt128 right.toInt128 with
  | ok value => rfl
  | error reason => cases reason <;> rfl

theorem foldDoubles_run (op : BinaryOp)
    (operation : Binary64 → Binary64 → Binary64) (left right : Constant) :
    (foldDoubles span op operation left right).run checker =
      checker.conclude span
        (.ofFold (Constant.foldDoubles op operation left right)) := by
  rw [foldDoubles, Constant.foldDoubles]
  split_ifs
  · rfl
  · cases Constant.ofBinary64?
        (operation left.toBinary64 right.toBinary64) <;> rfl

/-- Folding in steps makes the constant, or reports why there is none. -/
theorem fold?_run (op : BinaryOp) (left right : Constant) :
    (fold? span op left right).run checker =
      match left.fold? op right with
      | some result => (checker.conclude span (.ofFold result)).map some id
      | none => (none, checker) := by
  rw [fold?, Constant.fold?]
  cases op.onDoubles? with
  | some operation =>
      dsimp only
      split_ifs
      · rw [StateT.run_map, foldIntegers_run]
        rfl
      · rw [StateT.run_map, foldDoubles_run]
        rfl
  | none =>
      dsimp only
      split_ifs
      · rfl
      · rw [StateT.run_map, foldIntegers_run]
        rfl
      · rfl
      · rw [StateT.run_map, foldIntegers_run]
        rfl
      · rfl

theorem negate_run (operand : Constant) :
    (negate span operand).run checker =
      checker.conclude span (.ofFold operand.negate) := by
  rw [negate, Constant.negate]
  split_ifs
  · cases operand.toInt128.neg? <;> rfl
  · cases Constant.ofBinary64? operand.toBinary64.neg <;> rfl

theorem apply_run (op : BinaryOp) (subject left right : Ty) :
    (apply span op subject left right).run checker =
      checker.conclude span
        (op.apply checker.options subject left right) := by
  rw [apply, BinaryOp.apply]
  cases op.isShift with
  | true =>
      simp only [if_true, StateT.run_bind, StateT.run_get, pure_bind]
      split_ifs <;> rfl
  | false =>
      simp only [Bool.false_eq_true, if_false]
      split_ifs <;> rfl

theorem checkTyped_run (op : BinaryOp) (left right : Ty) :
    (checkTyped span op left right).run checker =
      checker.conclude span
        (op.checkTyped checker.options left right) := by
  rw [checkTyped, BinaryOp.checkTyped, StateT.run_bind, StateT.run_get,
    pure_bind]
  dsimp only
  -- From here on it does not matter which operand is the subject.
  generalize (checker.options.untypedOperandConversion &&
    left.kind.constant?.isSome && !op.isShift) = converts
  generalize (if converts = true then right else left) = subject
  generalize (if converts = true then left else right) = other
  cases op.isShift && checker.options.shiftOperandsExempt with
  | true => exact apply_run span checker op subject left right
  | false =>
      simp only [Bool.false_eq_true, if_false]
      rw [StateT.run_bind, assign_settles]
      cases subject.obstacle? checker.options other with
      | none => exact apply_run span checker op subject left right
      | some problem => rfl

/-- A binary operation in steps is a binary operation. -/
theorem binary_run (op : BinaryOp) (left right : Ty) :
    (binary span op left right).run checker =
      checker.binary span op left right := by
  rw [binary, Checker.binary, BinaryOp.check]
  split_ifs
  · rfl
  · cases left.kind.constant? with
    | none => exact checkTyped_run span checker op left right
    | some leftConstant =>
        cases right.kind.constant? with
        | none => exact checkTyped_run span checker op left right
        | some rightConstant =>
            dsimp only
            rw [StateT.run_bind, fold?_run]
            cases leftConstant.fold? op rightConstant with
            | some result => rfl
            | none => exact apply_run span checker op left left right

theorem unaryKnown_run (op : UnaryOp) (operand : Ty) :
    (unaryKnown span op operand).run checker =
      checker.conclude span (op.checkKnown checker.options operand) := by
  rcases operand with ⟨id, name, kind⟩
  cases op with
  | plus => cases kind <;> rfl
  | minus =>
      cases kind with
      | untyped constant => exact negate_run span checker constant
      | _ => rfl
  | not => cases kind <;> rfl
  | bitNot =>
      cases kind with
      | untyped constant =>
          simp only [unaryKnown, UnaryOp.checkKnown, Kind.constant?]
          split_ifs <;> rfl
      | _ => rfl
  | deref => cases kind <;> rfl
  | addressOf =>
      cases kind with
      | pointer | slice =>
          simp only [unaryKnown, UnaryOp.checkKnown, StateT.run_bind,
            StateT.run_get, pure_bind]
          split_ifs <;> rfl
      | _ => rfl

/-- A unary operation in steps is a unary operation. -/
theorem unary_run (op : UnaryOp) (operand : Ty) :
    (unary span op operand).run checker =
      checker.unary span op operand := by
  rw [unary, Checker.unary, UnaryOp.check]
  split_ifs
  · rfl
  · exact unaryKnown_run span checker op operand

end Stepwise

/-! ## What calls come to -/

/-- The list from an index on is empty or begins with the element there. -/
theorem drop_cases (params : List Ty) (index : Nat) :
    params.length ≤ index ∧ params[index]? = none ∧ params.drop index = [] ∨
      ∃ param, index < params.length ∧ params[index]? = some param ∧
        params.drop index = param :: params.drop (index + 1) := by
  rcases Nat.lt_or_ge index params.length with inside | beyond
  · exact Or.inr ⟨params[index], inside, List.getElem?_eq_getElem inside,
      List.drop_eq_getElem_cons inside⟩
  · exact Or.inl ⟨beyond, List.getElem?_eq_none beyond,
      List.drop_eq_nil_of_le beyond⟩

namespace Stepwise

variable (span : Span) (checker : Checker)

theorem reportShortage_of_le {params : List Ty} {count : Nat}
    (enough : params.length ≤ count) (index : Nat) :
    (reportShortage span params count index).run checker = ((), checker) := by
  rw [reportShortage, if_neg (Nat.not_lt.mpr enough)]
  rfl

theorem reportShortage_of_lt {params : List Ty} {count index : Nat}
    {param : Ty} (few : count < params.length)
    (found : params[index]? = some param) :
    (reportShortage span params count index).run checker =
      ((), checker.reportAll span
        (if param.kind.isVariadicAny then []
          else [.tooFewArguments params.length count])) := by
  rw [reportShortage, if_pos few, found, Option.any_some]
  split_ifs <;> rfl

/--
Passing arguments from an index on, and what is said of the parameters left
over, reports the problems of the arguments in order.
-/
theorem passArguments_run (params : List Ty) {count index : Nat}
    (args : List Ty) (inside : index ≤ params.length)
    (remaining : index + args.length = count) :
    (do
      let last ← passArguments span params count index args
      reportShortage span params count last : CheckM Unit).run checker =
      ((), checker.reportAll span
        (argumentProblems checker.options params.length count
          (params.drop index) args)) := by
  induction args generalizing index checker with
  | nil =>
      have all : index = count := remaining
      rcases drop_cases params index with
        ⟨beyond, -, dropped⟩ | ⟨param, within, found, dropped⟩
      · rw [dropped]
        exact reportShortage_of_le span checker (by omega) index
      · rw [dropped]
        exact reportShortage_of_lt span checker (by omega) found
  | cons arg args inductionHypothesis =>
      rw [List.length_cons] at remaining
      rcases drop_cases params index with
        ⟨beyond, found, dropped⟩ | ⟨param, within, found, dropped⟩
      · rw [passArguments, found, dropped]
        exact reportShortage_of_le span _ (by omega) index
      · rw [passArguments, found, dropped, argumentProblems]
        dsimp only
        split_ifs with variadic
        · rcases Nat.lt_or_ge count params.length with few | many
          · have ended := reportShortage_of_lt span checker few found
            rw [if_pos variadic] at ended
            exact ended
          · exact reportShortage_of_le span checker many index
        · rw [bind_assoc, StateT.run_bind, assign_settles]
          cases param.obstacle? checker.options arg with
          | none => exact inductionHypothesis checker within (by omega)
          | some problem =>
              exact inductionHypothesis (checker.report span problem) within
                (by omega)

/-- A call in steps is a call. -/
theorem call_run (callee : Ty) (args : List Ty) :
    (call span callee args).run checker =
      checker.call span callee args := by
  rcases callee with ⟨id, name, kind⟩
  cases kind with
  | func params results =>
      have passed := passArguments_run span checker params args
        (Nat.zero_le _) (Nat.zero_add args.length)
      simp only [call]
      rw [← bind_assoc, StateT.run_bind, passed]
      rfl
  | bool | string | int | uint | float | pointer | array | slice | struct
  | list | untyped | unknown | any | void | variadicAny => rfl

end Stepwise

end TypeRules
