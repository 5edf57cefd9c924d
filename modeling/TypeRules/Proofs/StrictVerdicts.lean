import TypeRules.Proofs.Faults
import TypeRules.Proofs.Stepwise

/-!
# Verdicts without faults

The verdicts of the checker, decided step by step with primitives that can meet
with faults.  Arguments are matched with parameters by an index that counts up.
The loop over the arguments may end early, in two ways, and afterwards a
parameter is looked up at the index where it ended.  That index has a parameter
whenever there are more parameters than arguments.
-/

namespace TypeRules

namespace Strict

/-! ## Obstacles -/

/-- Why a constant may not be stored in an integer type, if it may not. -/
def integerObstacle? (options : Options) (dest : Ty) (unsigned : Bool)
    (width : Nat) (constant : Constant) : Checked (Option (Problem Ty)) :=
  if !constant.isIntegral then return some (.truncated constant.text dest)
  else do
    let range ← intRange? options unsigned width
    return if range.any (·.contains constant.toInt128.toInt) then none
      else some (.overflows constant.text dest)

/-- Why a constant may not be stored in a location, if it may not. -/
def constantObstacle? (options : Options) (dest source : Ty)
    (constant : Constant) : Checked (Option (Problem Ty)) :=
  match dest.kind with
  | .float _ => return none
  | .int width => integerObstacle? options dest false width constant
  | .uint width => integerObstacle? options dest true width constant
  | _ => return some (.incompatible source dest)

mutual

/-- The first reason why a value may not be stored in a location. -/
def obstacle? (options : Options) (dest source : Ty) :
    Checked (Option (Problem Ty)) :=
  match source with
  | ⟨id, name, kind⟩ =>
      if dest.acceptsOutright options ⟨id, name, kind⟩ then return none
      else kindObstacle? options dest ⟨id, name, kind⟩ kind
termination_by structural source

/-- The first reason, where the two are not assignable outright. -/
def kindObstacle? (options : Options) (dest source : Ty) (kind : Kind Ty) :
    Checked (Option (Problem Ty)) :=
  match kind with
  | .untyped constant => constantObstacle? options dest source constant
  | .list sources =>
      match dest.kind with
      | .array _ element => eachObstacle? options element sources
      | .slice element => eachObstacle? options element sources
      | .list dests =>
          if dests.length = sources.length then
            pairwiseObstacle? options dests sources
          else return some (.lengthMismatch dests.length sources.length)
      | _ => return some (.incompatible source dest)
  | _ => return some (.incompatible source dest)
termination_by structural kind

/-- The first obstacle to storing each of several sources in one type. -/
def eachObstacle? (options : Options) (dest : Ty) (sources : List Ty) :
    Checked (Option (Problem Ty)) :=
  match sources with
  | [] => return none
  | source :: sources => do
      match ← obstacle? options dest source with
      | some problem => return some problem
      | none => eachObstacle? options dest sources
termination_by structural sources

/-- The first obstacle to storing each source in the type opposite to it. -/
def pairwiseObstacle? (options : Options) (dests sources : List Ty) :
    Checked (Option (Problem Ty)) :=
  match sources with
  | [] => return none
  | source :: sources =>
      match dests with
      | [] => return none
      | dest :: dests => do
          match ← obstacle? options dest source with
          | some problem => return some problem
          | none => pairwiseObstacle? options dests sources
termination_by structural sources

end

section Obstacles

variable (options : Options)

theorem integerObstacle?_eq {dest : Ty} {unsigned : Bool} {width : Nat}
    (found :
      intRange? options unsigned width =
        .ok (dest.kind.constantRange? options))
    (constant : Constant) :
    integerObstacle? options dest unsigned width constant =
      .ok (if !constant.isIntegral then some (.truncated constant.text dest)
        else if (dest.kind.constantRange? options).any
            (·.contains constant.toInt128.toInt) then none
        else some (.overflows constant.text dest)) := by
  rw [integerObstacle?, found]
  cases constant.isIntegral <;> rfl

theorem constantObstacle?_eq (dest source : Ty) (constant : Constant) :
    constantObstacle? options dest source constant =
      .ok (dest.constantObstacle? options source constant) := by
  rcases dest with ⟨id, name, kind⟩
  cases kind with
  | int width =>
      exact integerObstacle?_eq options (intRange?_int options width) constant
  | uint width =>
      exact integerObstacle?_eq options (intRange?_uint options width) constant
  | bool | string | float | pointer | array | slice | struct | func | list
  | untyped | unknown | any | void | variadicAny => rfl

theorem eachObstacle?_eq {dest : Ty} {sources : List Ty}
    (each :
      ∀ source ∈ sources,
        obstacle? options dest source = .ok (dest.obstacle? options source)) :
    eachObstacle? options dest sources =
      .ok (TypeRules.eachObstacle? options dest sources) := by
  induction sources with
  | nil => rfl
  | cons source sources inductionHypothesis =>
      rw [List.forall_mem_cons] at each
      rw [eachObstacle?, each.1, TypeRules.eachObstacle?]
      cases dest.obstacle? options source with
      | some problem => rfl
      | none => exact inductionHypothesis each.2

theorem pairwiseObstacle?_eq {dests sources : List Ty}
    (each :
      ∀ source ∈ sources, ∀ dest,
        obstacle? options dest source = .ok (dest.obstacle? options source)) :
    pairwiseObstacle? options dests sources =
      .ok (TypeRules.pairwiseObstacle? options dests sources) := by
  induction sources generalizing dests with
  | nil => rfl
  | cons source sources inductionHypothesis =>
      rw [List.forall_mem_cons] at each
      cases dests with
      | nil => rfl
      | cons dest dests =>
          rw [pairwiseObstacle?, each.1, TypeRules.pairwiseObstacle?]
          cases dest.obstacle? options source with
          | some problem => rfl
          | none => exact inductionHypothesis each.2

/-- Looking for an obstacle meets with no fault. -/
theorem obstacle?_eq (dest source : Ty) :
    obstacle? options dest source =
      .ok (dest.obstacle? options source) := by
  induction source using Ty.induction_on_components generalizing dest with
  | step source inductionHypothesis =>
      rcases source with ⟨id, name, kind⟩
      rw [obstacle?, Ty.obstacle?]
      split_ifs
      · rfl
      cases kind with
      | untyped constant => exact constantObstacle?_eq options dest _ constant
      | list sources =>
          rcases dest with ⟨destId, destName, destKind⟩
          cases destKind with
          | array length element =>
              exact eachObstacle?_eq options fun source member =>
                inductionHypothesis source member element
          | slice element =>
              exact eachObstacle?_eq options fun source member =>
                inductionHypothesis source member element
          | list dests =>
              simp only [kindObstacle?, Kind.obstacle?]
              split_ifs
              · exact pairwiseObstacle?_eq options inductionHypothesis
              · rfl
          | bool | string | int | uint | float | pointer | struct | func
          | untyped | unknown | any | void | variadicAny => rfl
      | bool | string | int | uint | float | pointer | array | slice | struct
      | func | unknown | any | void | variadicAny => rfl

end Obstacles

/-! ## Operators -/

/-- Check an operator on operands that are not both constants. -/
def checkTyped (op : BinaryOp) (options : Options) (left right : Ty) :
    Checked Verdict :=
  let converts :=
    options.untypedOperandConversion && left.kind.constant?.isSome &&
      !op.isShift
  let subject := if converts then right else left
  let other := if converts then left else right
  if op.isShift && options.shiftOperandsExempt then
    return op.apply options subject left right
  else do
    return match ← obstacle? options subject other with
      | some problem => .rejected [problem, .mismatchedOperands left right]
      | none => op.apply options subject left right

/-- Check a binary operation. -/
def checkBinary (op : BinaryOp) (options : Options) (left right : Ty) :
    Checked Verdict :=
  if left.kind.isUnknown || right.kind.isUnknown then return .silent
  else
    match left.kind.constant?, right.kind.constant? with
    | some leftConstant, some rightConstant => do
        return match ← fold? op leftConstant rightConstant with
          | some folded => .ofFold folded
          | none => op.apply options left left right
    | _, _ => checkTyped op options left right

theorem checkTyped_eq (op : BinaryOp) (options : Options) (left right : Ty) :
    checkTyped op options left right =
      .ok (op.checkTyped options left right) := by
  simp only [checkTyped, BinaryOp.checkTyped, obstacle?_eq, ok_bind]
  cases op.isShift && options.shiftOperandsExempt <;> rfl

theorem checkBinary_eq (op : BinaryOp) (options : Options) (left right : Ty) :
    checkBinary op options left right = .ok (op.check options left right) := by
  simp only [checkBinary, BinaryOp.check, fold?_eq, checkTyped_eq, ok_bind]
  split_ifs
  · rfl
  · cases left.kind.constant? <;> cases right.kind.constant? <;> rfl

/-! ## Calls -/

section Calls

variable (options : Options) (params : List Ty) (count : Nat)

/-- The parameter at an index that is taken to have one. -/
def paramAt (index : Nat) : Checked Ty :=
  match params[index]? with
  | some param => return param
  | none => throw (.noElement index)

/--
Match arguments with the parameters from an index on.  The result is the index
where this ended, and the problems met with.
-/
def matchArguments (index : Nat) :
    List Ty → Checked (Nat × List (Problem Ty))
  | [] => return (index, [])
  | arg :: args =>
      match params[index]? with
      | none => return (index, [.tooManyArguments params.length count])
      | some param =>
          if param.kind.isVariadicAny then return (index, [])
          else do
            let problem ← obstacle? options param arg
            let (last, problems) ← matchArguments (index + 1) args
            return (last, problem.toList ++ problems)

/-- The problem of too few arguments, where matching them ended at an index. -/
def shortage (index : Nat) : Checked (List (Problem Ty)) :=
  if count < params.length then do
    let param ← paramAt params index
    return if param.kind.isVariadicAny then []
      else [.tooFewArguments params.length count]
  else return []

/-- The problems of passing arguments to parameters. -/
def argumentProblems (args : List Ty) : Checked (List (Problem Ty)) := do
  let (last, problems) ← matchArguments options params args.length 0 args
  return problems ++ (← shortage params args.length last)

end Calls

/-- Check a call of a value of any type. -/
def checkCall (options : Options) (callee : Ty) (args : List Ty) :
    Checked Verdict :=
  match callee.kind with
  | .unknown => return .silent
  | .func params results => do
      return ⟨.type (results.head?.getD Ty.void),
        ← argumentProblems options params args⟩
  | _ => return .rejected [.notCallable callee]

theorem shortage_eq_nil {params : List Ty} {count : Nat}
    (enough : params.length ≤ count) (index : Nat) :
    shortage params count index = .ok [] := by
  rw [shortage, if_neg (by omega)]
  rfl

theorem shortage_eq {params : List Ty} {count index : Nat} {param : Ty}
    (few : count < params.length) (found : params[index]? = some param) :
    shortage params count index =
      .ok (if param.kind.isVariadicAny then []
        else [.tooFewArguments params.length count]) := by
  rw [shortage, if_pos few, paramAt, found]
  rfl

/--
Matching arguments from an index on ends where looking for a shortage meets
with no fault: at a parameter, or behind the last one if there are as many
arguments.
-/
theorem matchArguments_shortage (options : Options) (params : List Ty)
    {count index : Nat} (args : List Ty) (inside : index ≤ params.length)
    (remaining : index + args.length = count) :
    ∃ last problems short,
      matchArguments options params count index args = .ok (last, problems) ∧
        shortage params count last = .ok short ∧
        problems ++ short =
          TypeRules.argumentProblems options params.length count
            (params.drop index) args := by
  induction args generalizing index with
  | nil =>
      have all : index = count := remaining
      rcases drop_cases params index with
        ⟨beyond, -, dropped⟩ | ⟨param, within, found, dropped⟩
      · refine ⟨index, [], [], rfl, shortage_eq_nil (by omega) index, ?_⟩
        rw [dropped]
        rfl
      · refine ⟨index, [], _, rfl, shortage_eq (by omega) found, ?_⟩
        rw [dropped]
        rfl
  | cons arg args inductionHypothesis =>
      rw [List.length_cons] at remaining
      rcases drop_cases params index with
        ⟨beyond, found, dropped⟩ | ⟨param, within, found, dropped⟩
      · -- Behind the last parameter: what is left over is at least one argument,
        -- so that no shortage is looked for.
        refine ⟨index, [.tooManyArguments params.length count], [], ?_,
          shortage_eq_nil (by omega) index, ?_⟩
        · rw [matchArguments, found]
          rfl
        · rw [dropped]
          rfl
      · by_cases variadic : param.kind.isVariadicAny = true
        · -- The loop ends before the last argument, but at a parameter.
          have matched :
              matchArguments options params count index (arg :: args) =
                .ok (index, []) := by
            simp only [matchArguments, found, variadic, if_true]
            rfl
          have enough : shortage params count index = .ok [] := by
            rcases Nat.lt_or_ge count params.length with few | many
            · rw [shortage_eq few found, if_pos variadic]
            · exact shortage_eq_nil many index
          refine ⟨index, [], [], matched, enough, ?_⟩
          rw [dropped, TypeRules.argumentProblems, if_pos variadic]
          rfl
        · rcases @inductionHypothesis (index + 1) within (by omega) with
            ⟨last, problems, short, matched, ended, total⟩
          refine ⟨last, (param.obstacle? options arg).toList ++ problems,
            short, ?_, ended, ?_⟩
          · simp only [matchArguments, found, variadic, obstacle?_eq, matched]
            rfl
          · rw [List.append_assoc, total, dropped, TypeRules.argumentProblems,
              if_neg variadic]

theorem argumentProblems_eq (options : Options) (params args : List Ty) :
    argumentProblems options params args =
      .ok (TypeRules.argumentProblems options params.length args.length params
        args) := by
  rcases matchArguments_shortage options params args (Nat.zero_le _)
      (Nat.zero_add args.length) with
    ⟨last, problems, short, matched, ended, total⟩
  simp only [argumentProblems, matched, ok_bind, ended, total]
  rfl

theorem checkCall_eq (options : Options) (callee : Ty) (args : List Ty) :
    checkCall options callee args = .ok (callee.checkCall options args) := by
  rcases callee with ⟨id, name, kind⟩
  cases kind with
  | func params results =>
      simp only [checkCall, argumentProblems_eq, ok_bind]
      rfl
  | bool | string | int | uint | float | pointer | array | slice | struct
  | list | untyped | unknown | any | void | variadicAny => rfl

end Strict

end TypeRules
