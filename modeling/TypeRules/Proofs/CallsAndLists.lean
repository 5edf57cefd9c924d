import TypeRules.Proofs.CallOutcome
import TypeRules.Proofs.Transparency

/-!
# Calls and lists of types

There are two ways to ask whether arguments go into parameters.  A call goes
through all of them, reports whatever is wrong on the way and looks at the
number of arguments at the end.  Storing a list of the arguments in a list of
the parameters compares the numbers first and stops at the first pair that does
not fit.

As long as no parameter takes any number of arguments the two ways come to the
same decision, and if only pairs are wrong they begin with the same diagnostic.
The two may be gone in either order, and other requests may come between them.
-/

namespace TypeRules

/-! ## Pair by pair -/

/-- The first thing that is wrong with storing sources in destinations. -/
def listObstacle? (options : Options) (dests sources : List Ty) :
    Option (Problem Ty) :=
  if dests.length = sources.length then
    (dests.zip sources).findSome? fun pair => pair.1.obstacle? options pair.2
  else some (.lengthMismatch dests.length sources.length)

/-- Lists that are not the same type are stored pair by pair. -/
theorem Ty.obstacle?_of_lists {options : Options} {dest source : Ty}
    {dests sources : List Ty} (destList : dest.kind = .list dests)
    (sourceList : source.kind = .list sources)
    (differ : dest.id ≠ source.id) :
    dest.obstacle? options source = listObstacle? options dests sources := by
  have shut : ¬ dest.acceptsOutright options source = true := by
    rw [acceptsOutright_iff]
    simp [differ, destList, sourceList]
  rw [obstacle?_eq, if_neg shut, sourceList, Kind.obstacle?, destList]
  simp only [pairwiseObstacle?_eq_findSome?, listObstacle?]

theorem Kind.isVariadicAny_iff {kind : Kind Ty} :
    kind.isVariadicAny = true ↔ kind = .variadicAny := by
  cases kind <;> simp [Kind.isVariadicAny]

section Fixed

variable {params args : List Ty} {options : Options} {arity count : Nat}
  (fixed : ∀ param ∈ params, param.kind ≠ .variadicAny)

include fixed

theorem fixedArity_of_fixed : fixedArity params = params.length := by
  rw [fixedArity, List.findIdx_eq_length]
  intro param member
  rw [← Bool.not_eq_true, Kind.isVariadicAny_iff]
  exact fixed param member

theorem passedPairs_of_fixed : passedPairs params args = params.zip args := by
  rw [passedPairs, fixedArity_of_fixed fixed, List.take_length]

theorem countProblems_eq_nil_iff :
    countProblems arity count params args = [] ↔
      params.length = args.length := by
  rw [countProblems, fixedArity_of_fixed fixed]
  split_ifs <;> simp <;> omega

/-- A call without an argument too few or too many goes wrong as lists do. -/
theorem head?_argumentProblems (lengths : params.length = args.length) :
    (argumentProblems options arity count params args).head? =
      listObstacle? options params args := by
  rw [argumentProblems_eq_append, (countProblems_eq_nil_iff fixed).mpr lengths,
    List.append_nil, passedPairs_of_fixed fixed, List.head?_filterMap,
    listObstacle?, if_pos lengths]

/-- A call has no problem exactly if the lists have none. -/
theorem argumentProblems_eq_nil_iff :
    argumentProblems options arity count params args = [] ↔
      listObstacle? options params args = none := by
  by_cases lengths : params.length = args.length
  · rw [← head?_argumentProblems fixed lengths, List.head?_eq_none_iff]
  · rw [argumentProblems_eq_append, List.append_eq_nil_iff,
      countProblems_eq_nil_iff fixed, listObstacle?, if_neg lengths]
    simp [lengths]

end Fixed

/-! ## Two ways to check arguments -/

namespace Checker

/-- Make a new list of types. -/
def listed (checker : Checker) (types : List Ty) : Ty × Checker :=
  checker.withArena (checker.arena.unnamed (.list types))

/-- Store a new list of sources in a new list of destinations. -/
def assignLists (checker : Checker) (span : Span) (dests sources : List Ty) :
    Bool × Checker :=
  let (dest, checker) := checker.listed dests
  let (source, checker) := checker.listed sources
  checker.assign span dest source

theorem Reachable.listed {checker : Checker} (reachable : checker.Reachable)
    {types : List Ty} (known : ∀ type ∈ types, type ∈ checker.arena.types) :
    (checker.listed types).2.Reachable :=
  .serve (.construct (.list types)) reachable known

theorem mem_listed {checker : Checker} {types : List Ty} {type : Ty} :
    type ∈ (checker.listed types).2.arena.types ↔
      type ∈ checker.arena.types ∨ type = (checker.listed types).1 :=
  Array.mem_push

/-- New lists are different types, so that they are stored pair by pair. -/
theorem obstacle?_listed (checker : Checker) (options : Options)
    (dests sources : List Ty) :
    (checker.listed dests).1.obstacle? options
        ((checker.listed dests).2.listed sources).1 =
      listObstacle? options dests sources := by
  have next :
      ((checker.listed dests).2.listed sources).1.id =
        (checker.listed dests).1.id + 1 :=
    Array.size_push _
  apply Ty.obstacle?_of_lists rfl rfl
  rw [next]
  exact Nat.ne_of_lt (Nat.lt_succ_self _)

theorem assignLists_eq_true_iff {checker : Checker} {span : Span}
    {dests sources : List Ty} :
    (checker.assignLists span dests sources).1 = true ↔
      listObstacle? checker.options dests sources = none := by
  rw [assignLists, assign_eq_true_iff, ← checker.obstacle?_listed]
  rfl

theorem assignLists_findings {checker : Checker}
    (reachable : checker.Reachable) (span : Span) {dests sources : List Ty}
    (known : ∀ type ∈ dests ++ sources, type ∈ checker.arena.types) :
    (checker.assignLists span dests sources).2.diagnostics =
      checker.diagnostics ++
        (listObstacle? checker.options dests sources).toList.map
          (Problem.finding span) := by
  rw [List.forall_mem_append] at known
  have both :
      ((checker.listed dests).2.listed sources).2.Reachable :=
    (reachable.listed known.1).listed fun type member =>
      mem_listed.mpr (.inl (known.2 type member))
  rw [← checker.obstacle?_listed]
  refine serve_findings both.truthful
    (.assign span (checker.listed dests).1
      ((checker.listed dests).2.listed sources).1) ?_
  rw [Request.operands, List.forall_mem_cons, List.forall_mem_singleton]
  exact ⟨mem_listed.mpr (.inl (mem_listed.mpr (.inr rfl))),
    mem_listed.mpr (.inr rfl)⟩

theorem call_findings {checker : Checker} (reachable : checker.Reachable)
    (span : Span) {callee : Ty} {params results args : List Ty}
    (func : callee.kind = .func params results)
    (known : ∀ type ∈ callee :: args, type ∈ checker.arena.types) :
    (checker.call span callee args).2.diagnostics =
      checker.diagnostics ++
        (argumentProblems checker.options params.length args.length params
          args).map (Problem.finding span) := by
  have findings :=
    serve_findings reachable.truthful (.call span callee args) known
  rw [Request.findings, Request.problems, Ty.checkCall, func] at findings
  exact findings

/--
A function without a parameter for any number of arguments is called, and at
some other time a new list of the arguments is stored in a new list of the
parameters.  The call reports nothing exactly if the lists are accepted.  If
there are as many arguments as parameters, then the first diagnostic of a call
that goes wrong is the only one of the lists.
-/
theorem call_agrees_with_lists {caller lister : Checker}
    (callerReachable : caller.Reachable) (listerReachable : lister.Reachable)
    (sameOptions : caller.options = lister.options) (span : Span)
    {callee : Ty} {params results args : List Ty}
    (func : callee.kind = .func params results)
    (fixed : ∀ param ∈ params, param.kind ≠ .variadicAny)
    (callerKnows : ∀ type ∈ callee :: args, type ∈ caller.arena.types)
    (listerKnows : ∀ type ∈ params ++ args, type ∈ lister.arena.types) :
    ((caller.call span callee args).2.diagnostics = caller.diagnostics ↔
        (lister.assignLists span params args).1 = true) ∧
      (params.length = args.length →
        (lister.assignLists span params args).1 = false →
        ∃ first rest,
          (caller.call span callee args).2.diagnostics =
              caller.diagnostics ++ first :: rest ∧
            (lister.assignLists span params args).2.diagnostics =
              lister.diagnostics ++ [first]) := by
  rw [call_findings callerReachable span func callerKnows,
    assignLists_findings listerReachable span listerKnows, sameOptions]
  constructor
  · rw [List.append_right_eq_self, List.map_eq_nil_iff,
      assignLists_eq_true_iff, argumentProblems_eq_nil_iff fixed]
  · intro lengths refused
    have head :=
      @head?_argumentProblems params args lister.options params.length
        args.length fixed lengths
    rw [← Bool.not_eq_true, assignLists_eq_true_iff, ← head] at refused
    rw [← head]
    generalize argumentProblems lister.options params.length args.length
      params args = problems at refused ⊢
    cases problems with
    | nil => exact absurd rfl refused
    | cons problem problems => exact ⟨_, _, rfl, rfl⟩

/-- Functions of a truth value and a string. -/
def labelling : Ty :=
  ⟨6, none, .func [Ty.bool, Ty.string] []⟩

/-- A run that makes the functions of a truth value and a string. -/
def labellingRun : Checker :=
  ((initial .standard).serve
    (.construct (.func [Ty.bool, Ty.string] []))).2

/-- The run goes on with a call that has its arguments in the wrong order. -/
def mislabelledRun : Checker :=
  (labellingRun.serve
    (.call .unplaced labelling [Ty.string, Ty.bool])).2

theorem call_agrees_with_lists_mislabelled :
    labellingRun.Reachable ∧ mislabelledRun.Reachable ∧
      ∃ first rest,
        mislabelledRun.diagnostics = first :: rest ∧
          (mislabelledRun.assignLists .unplaced [Ty.bool, Ty.string]
              [Ty.string, Ty.bool]).2.diagnostics =
            mislabelledRun.diagnostics ++ [first] := by
  have reachable : labellingRun.Reachable := by
    refine .serve _ (.initial .standard) ?_
    exact List.forall_mem_cons.mpr ⟨Array.mem_of_getElem? (i := 4) rfl,
      List.forall_mem_singleton.mpr (Array.mem_of_getElem? (i := 5) rfl)⟩
  have callerKnows :
      ∀ type ∈ [labelling, Ty.string, Ty.bool],
        type ∈ labellingRun.arena.types :=
    List.forall_mem_cons.mpr ⟨Array.mem_of_getElem? (i := 6) rfl,
      List.forall_mem_cons.mpr ⟨Array.mem_of_getElem? (i := 5) rfl,
        List.forall_mem_singleton.mpr (Array.mem_of_getElem? (i := 4) rfl)⟩⟩
  have listerReachable : mislabelledRun.Reachable :=
    .serve _ reachable callerKnows
  have bool : Ty.bool ∈ mislabelledRun.arena.types :=
    Array.mem_of_getElem? (i := 4) rfl
  have string : Ty.string ∈ mislabelledRun.arena.types :=
    Array.mem_of_getElem? (i := 5) rfl
  have agrees :=
    call_agrees_with_lists reachable listerReachable rfl .unplaced
      (show labelling.kind = .func [Ty.bool, Ty.string] [] from rfl)
      (by simp [Ty.bool, Ty.string]) callerKnows
      (by simp [bool, string])
  refine ⟨reachable, listerReachable, ?_⟩
  exact agrees.2 rfl (by decide)

end Checker

end TypeRules
