import TypeRules.Proofs.FirstClash

/-!
# What a call comes to

A call stores its arguments in the parameters one after another, up to the first
parameter that takes any number of arguments.  `fixedArity` counts the
parameters before that one.  A call goes wrong in its number of arguments if it
leaves one of these parameters out, or if it passes more arguments than there
are parameters and no parameter takes them.

The main result says which diagnostics a call adds, in order, and that its type
is the first result of the function in any case.
-/

namespace TypeRules

/--
The number of parameters before the first one that takes any number of
arguments; all of them, if there is none of that sort.
-/
def fixedArity (params : List Ty) : Nat :=
  params.findIdx fun param => param.kind.isVariadicAny

theorem fixedArity_cons (param : Ty) (params : List Ty) :
    fixedArity (param :: params) =
      if param.kind.isVariadicAny then 0 else fixedArity params + 1 := by
  rw [fixedArity, List.findIdx_cons]
  cases param.kind.isVariadicAny <;> rfl

/--
What is wrong with the number of arguments, where `arity` and `count` are the
numbers to be named and `params` and `args` those that are left.
-/
def countProblems (arity count : Nat) (params args : List Ty) :
    List (Problem Ty) :=
  if args.length < fixedArity params then [.tooFewArguments arity count]
  else if fixedArity params = params.length ∧ params.length < args.length then
    [.tooManyArguments arity count]
  else []

/-- The pairs of a parameter and the argument that is stored in it. -/
def passedPairs (params args : List Ty) : List (Ty × Ty) :=
  (params.take (fixedArity params)).zip args

/-- The problems of passing arguments, and then that of their number. -/
theorem argumentProblems_eq_append (options : Options) (arity count : Nat)
    (params args : List Ty) :
    argumentProblems options arity count params args =
      (passedPairs params args).filterMap
          (fun pair => pair.1.obstacle? options pair.2) ++
        countProblems arity count params args := by
  induction params generalizing args with
  | nil => cases args <;> rfl
  | cons param params inductionHypothesis =>
      cases variadic : param.kind.isVariadicAny with
      | true =>
          have none : fixedArity (param :: params) = 0 := by
            rw [fixedArity_cons, if_pos variadic]
          cases args <;>
            simp [argumentProblems, variadic, passedPairs, countProblems, none]
      | false =>
          have more :
              fixedArity (param :: params) = fixedArity params + 1 := by
            rw [fixedArity_cons, variadic]
            rfl
          cases args with
          | nil =>
              simp [argumentProblems, variadic, passedPairs, countProblems,
                more]
          | cons arg args =>
              have counts :
                  countProblems arity count (param :: params) (arg :: args) =
                    countProblems arity count params args := by
                simp [countProblems, more]
              have pairs :
                  passedPairs (param :: params) (arg :: args) =
                    (param, arg) :: passedPairs params args := by
                rw [passedPairs, more, List.take_succ_cons,
                  List.zip_cons_cons, passedPairs]
              rw [argumentProblems, if_neg (by simp [variadic]),
                inductionHypothesis, counts, pairs, List.filterMap_cons]
              cases param.obstacle? options arg <;> rfl

namespace Checker

/-! ## Assignments one after another -/

/-- Store each source in its destination, one after another. -/
def assignAll (checker : Checker) (span : Span) (pairs : List (Ty × Ty)) :
    Checker :=
  pairs.foldl
    (fun current pair => (current.assign span pair.1 pair.2).2) checker

/--
The diagnostics of storing each source in its destination, one after another:
one for each assignment that fails, namely the last that is there after it.
-/
def complaints (checker : Checker) (span : Span) :
    List (Ty × Ty) → List Diagnostic
  | [] => []
  | (dest, source) :: pairs =>
      let (accepted, next) := checker.assign span dest source
      (if accepted then [] else next.diagnostics.getLast?.toList) ++
        next.complaints span pairs

theorem assignAll_eq_reportAll (checker : Checker) (span : Span)
    (pairs : List (Ty × Ty)) :
    checker.assignAll span pairs =
      checker.reportAll span
        (pairs.filterMap fun pair =>
          pair.1.obstacle? checker.options pair.2) := by
  induction pairs generalizing checker with
  | nil => rfl
  | cons pair pairs inductionHypothesis =>
      rw [assignAll, List.foldl_cons, List.filterMap_cons, assign]
      cases pair.1.obstacle? checker.options pair.2 with
      | none => exact inductionHypothesis checker
      | some problem => exact inductionHypothesis (checker.report span problem)

theorem assignAll_diagnostics (checker : Checker) (span : Span)
    (pairs : List (Ty × Ty)) :
    (checker.assignAll span pairs).diagnostics =
      checker.diagnostics ++ checker.complaints span pairs := by
  induction pairs generalizing checker with
  | nil => exact (List.append_nil _).symm
  | cons pair pairs inductionHypothesis =>
      have step :
          (checker.assign span pair.1 pair.2).2.diagnostics =
            checker.diagnostics ++
              (if (checker.assign span pair.1 pair.2).1 then []
                else (checker.assign span pair.1
                  pair.2).2.diagnostics.getLast?.toList) := by
        rw [assign]
        cases pair.1.obstacle? checker.options pair.2 with
        | none => simp
        | some problem => simp [report_diagnostics_eq]
      rw [complaints, ← List.append_assoc, ← step]
      exact inductionHypothesis (checker.assign span pair.1 pair.2).2

/-! ## The outcome of a call -/

theorem reportAll_append (checker : Checker) (span : Span)
    (before after : List (Problem Ty)) :
    checker.reportAll span (before ++ after) =
      (checker.reportAll span before).reportAll span after :=
  List.foldl_append

/--
A call stores the arguments in the parameters opposite to them, then reports
what is wrong with their number, and has the type of the first result.
-/
theorem call_eq (checker : Checker) (span : Span) (id : Nat)
    (name : Option Atom) (params results args : List Ty) :
    checker.call span ⟨id, name, .func params results⟩ args =
      (results.head?.getD Ty.void,
        (checker.assignAll span (passedPairs params args)).reportAll span
          (countProblems params.length args.length params args)) := by
  rw [assignAll_eq_reportAll, ← reportAll_append,
    ← argumentProblems_eq_append]
  rfl

theorem countProblems_diagnostics (checker : Checker) (span : Span)
    (arity count : Nat) (params args : List Ty) :
    ∃ added,
      (checker.reportAll span
          (countProblems arity count params args)).diagnostics =
        checker.diagnostics ++ added ∧
      added.length ≤ 1 ∧
      (∀ diagnostic ∈ added,
        diagnostic = ⟨.tooFewArguments arity count, span⟩ ∨
          diagnostic = ⟨.tooManyArguments arity count, span⟩) ∧
      (⟨.tooFewArguments arity count, span⟩ ∈ added ↔
        args.length < fixedArity params) ∧
      (⟨.tooManyArguments arity count, span⟩ ∈ added ↔
        fixedArity params = params.length ∧
          params.length < args.length) := by
  rw [countProblems]
  split_ifs with few many
  · refine ⟨[⟨.tooFewArguments arity count, span⟩], rfl, Nat.le_refl 1, ?_⟩
    have notMany :
        ¬ (fixedArity params = params.length ∧
          params.length < args.length) := by
      omega
    simp [few, notMany]
  · exact ⟨[⟨.tooManyArguments arity count, span⟩], rfl, Nat.le_refl 1,
      by simp [many, Nat.le_of_lt many.2]⟩
  · exact ⟨[], (List.append_nil _).symm, Nat.zero_le 1, by simp [few, many]⟩

/--
The outcome of calling a function, whatever types it is made of and whatever is
passed.  The first parameters, up to one that takes any number of arguments, are
assigned the arguments opposite to them, and each assignment that fails adds its
diagnostic.  Then there is at most one more: arguments are too few exactly if
one of these parameters is left without one, and too many exactly if there are
more arguments than parameters and no parameter takes any number.  The type is
the first result in any case, and nothing if there is none.
-/
theorem call_outcome (checker : Checker) (span : Span) (id : Nat)
    (name : Option Atom) (params results args : List Ty) :
    (checker.call span ⟨id, name, .func params results⟩ args).1 =
        results.head?.getD Ty.void ∧
      ∃ added,
        (checker.call span ⟨id, name, .func params results⟩
            args).2.diagnostics =
          checker.diagnostics ++
            checker.complaints span (passedPairs params args) ++ added ∧
        added.length ≤ 1 ∧
        (∀ diagnostic ∈ added,
          diagnostic = ⟨.tooFewArguments params.length args.length, span⟩ ∨
            diagnostic =
              ⟨.tooManyArguments params.length args.length, span⟩) ∧
        (⟨.tooFewArguments params.length args.length, span⟩ ∈ added ↔
          args.length < fixedArity params) ∧
        (⟨.tooManyArguments params.length args.length, span⟩ ∈ added ↔
          fixedArity params = params.length ∧
            params.length < args.length) := by
  rw [call_eq, ← assignAll_diagnostics]
  exact ⟨rfl, countProblems_diagnostics _ span _ _ params args⟩

/-
No argument is missed behind a parameter that takes any number of them, and none
is looked at there.
-/
example :
    let params := [Ty.bool, Ty.variadicAny, Ty.string]
    ((initial .standard).call .unplaced ⟨6, none, .func params []⟩
        [Ty.bool]).2.diagnostics.length = 0 ∧
      ((initial .standard).call .unplaced ⟨6, none, .func params []⟩
        [Ty.string, Ty.void, Ty.bool]).2.diagnostics.length = 1 := by
  decide

end Checker

end TypeRules
