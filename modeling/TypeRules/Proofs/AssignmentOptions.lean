import TypeRules.Proofs.Assignability

/-!
# The options that assignments see

Of the five options an assignment looks at two: which constants an unsigned type
accepts, and whether a pointer to anything goes into every pointer.  Under
options that agree on these two an assignment meets with the same obstacle, and
so it gives the same answer and reports the same problem.

The rule for pointers to anything only adds assignments.  This is not plain from
the checks, which end at the first obstacle and so go through different pairs
with the rule and without it.  It is plain from the rules of assignability: a
derivation without the rule is one with it.
-/

namespace TypeRules

/-- Searches that agree on every member find the same. -/
theorem findSome?_congr {α β : Type} {members : List α}
    {search other : α → Option β}
    (agree : ∀ member ∈ members, search member = other member) :
    members.findSome? search = members.findSome? other := by
  rw [← List.head?_filterMap, ← List.head?_filterMap,
    List.filterMap_congr agree]

section Agreement

variable {options other : Options}

/-- Which constants a kind accepts depends on one option. -/
theorem Kind.constantRange?_congr
    (ranges : options.unsignedRange = other.unsignedRange) (kind : Kind Ty) :
    kind.constantRange? options = kind.constantRange? other := by
  cases kind with
  | uint width => rw [constantRange?, constantRange?, ranges]
  | bool | string | int | float | pointer | array | slice | struct | func
  | list | untyped | unknown | any | void | variadicAny => rfl

theorem Ty.constantObstacle?_congr
    (ranges : options.unsignedRange = other.unsignedRange)
    (dest source : Ty) (constant : Constant) :
    dest.constantObstacle? options source constant =
      dest.constantObstacle? other source constant := by
  unfold constantObstacle?
  rw [dest.kind.constantRange?_congr ranges]

/-- Which types are accepted outright depends on one option. -/
theorem Ty.acceptsOutright_congr
    (nils : options.nilPointer = other.nilPointer) (dest source : Ty) :
    dest.acceptsOutright options source =
      dest.acceptsOutright other source := by
  rw [acceptsOutright, acceptsOutright, nils]

/-- The first obstacle is the same under options that agree on two. -/
theorem Ty.obstacle?_congr
    (ranges : options.unsignedRange = other.unsignedRange)
    (nils : options.nilPointer = other.nilPointer) (dest source : Ty) :
    dest.obstacle? options source = dest.obstacle? other source := by
  induction source using Ty.induction_on_components generalizing dest with
  | step source inductionHypothesis =>
      rw [obstacle?_eq, obstacle?_eq, acceptsOutright_congr nils]
      split_ifs with outright
      · rfl
      cases kind : source.kind with
      | untyped constant => exact constantObstacle?_congr ranges dest _ _
      | list sources =>
          rw [kind] at inductionHypothesis
          have each (element : Ty) :
              eachObstacle? options element sources =
                eachObstacle? other element sources := by
            rw [eachObstacle?_eq_findSome?, eachObstacle?_eq_findSome?]
            apply findSome?_congr
            intro part member
            exact inductionHypothesis part member element
          have pairwise (dests : List Ty) :
              pairwiseObstacle? options dests sources =
                pairwiseObstacle? other dests sources := by
            rw [pairwiseObstacle?_eq_findSome?, pairwiseObstacle?_eq_findSome?]
            apply findSome?_congr
            intro pair member
            exact inductionHypothesis pair.2 (List.of_mem_zip member).2 pair.1
          simp only [Kind.obstacle?, each, pairwise]
      | bool | string | int | uint | float | pointer | array | slice | struct
      | func | unknown | any | void | variadicAny => rfl

end Agreement

/-! ## Options that allow more -/

section Extension

variable {narrow wide : Options}

/-- Which integers a kind takes depends on one option only. -/
theorem Kind.Holds.transfer {value : Int} {kind : Kind Ty}
    (ranges : narrow.unsignedRange = wide.unsignedRange)
    (holds : kind.Holds narrow value) : kind.Holds wide value := by
  rw [Kind.holds_iff] at holds ⊢
  rwa [← kind.constantRange?_congr ranges]

/-- What is assignable stays so if pointers to anything are let in. -/
theorem Assignable.transfer {dest source : Ty}
    (ranges : narrow.unsignedRange = wide.unsignedRange)
    (nils : narrow.nilPointer = true → wide.nilPointer = true)
    (assignable : Assignable narrow dest source) :
    Assignable wide dest source := by
  induction assignable with
  | same ids => exact .same ids
  | toUnknown unknown => exact .toUnknown unknown
  | toAny any => exact .toAny any
  | ofUnknown unknown => exact .ofUnknown unknown
  | nilPointer enabled pointer nil any =>
      exact .nilPointer (nils enabled) pointer nil any
  | constantToFloat float untyped => exact .constantToFloat float untyped
  | constantToInteger untyped integral holds =>
      exact .constantToInteger untyped integral (holds.transfer ranges)
  | listToArray array list _ inductionHypothesis =>
      exact .listToArray array list inductionHypothesis
  | listToSlice slice list _ inductionHypothesis =>
      exact .listToSlice slice list inductionHypothesis
  | listToList destList sourceList lengths _ inductionHypothesis =>
      exact .listToList destList sourceList lengths inductionHypothesis

end Extension

namespace Checker

/--
An assignment under options that agree on the two it looks at gives the same
answer, adds the same diagnostic and leaves the arena the same.  If it succeeds
at all, then it also succeeds with the rule for pointers to anything, as long as
unsigned types accept the same constants.
-/
theorem assign_sees_two_options (checker : Checker) (span : Span)
    (dest source : Ty) :
    (∀ other : Options,
        other.unsignedRange = checker.options.unsignedRange →
        other.nilPointer = checker.options.nilPointer →
        assign { checker with options := other } span dest source =
          ((checker.assign span dest source).1,
            { (checker.assign span dest source).2 with options := other })) ∧
      ∀ wide : Options,
        wide.unsignedRange = checker.options.unsignedRange →
        wide.nilPointer = true →
        (checker.assign span dest source).1 = true →
        assign { checker with options := wide } span dest source =
          (true, { checker with options := wide }) := by
  constructor
  · intro other ranges nils
    rw [assign, assign, Ty.obstacle?_congr ranges nils]
    cases dest.obstacle? checker.options source <;> rfl
  · intro wide ranges on accepted
    rw [assign_eq_true_iff, Ty.obstacle?_eq_none_iff] at accepted
    have allowed : Assignable wide dest source :=
      accepted.transfer ranges.symm fun _ => on
    rw [assign, Ty.obstacle?_of_assignable allowed]

/-- A checker to which a pointer to anything is like any other pointer. -/
def plainPointers : Checker :=
  initial { Options.standard with nilPointer := false }

/-- A flag behind a pointer, and then a list of what may be anything. -/
def flagThenAnything : Ty :=
  ⟨8, none, .list [⟨6, none, .pointer Ty.bool⟩, ⟨7, none, .slice Ty.any⟩]⟩

/-- A null pointer, and then a list of null pointers. -/
def nullThenNulls : Ty :=
  let null : Ty := ⟨9, none, .pointer Ty.any⟩
  ⟨11, none, .list [null, ⟨10, none, .list [null, null]⟩]⟩

/-- A flag behind a pointer, and then a list of null pointers. -/
def flagThenNulls : Ty :=
  let null : Ty := ⟨9, none, .pointer Ty.any⟩
  ⟨11, none, .list [⟨6, none, .pointer Ty.bool⟩,
    ⟨10, none, .list [null, null]⟩]⟩

theorem assign_sees_two_options_nulls :
    let other : Options :=
      { plainPointers.options with
        addressOfYieldsPointer := false
        shiftOperandsExempt := false
        untypedOperandConversion := true }
    let refused :=
      plainPointers.assign .unplaced flagThenAnything nullThenNulls
    refused.1 = false ∧ refused.2.diagnostics.length = 1 ∧
      (assign { plainPointers with options := other } .unplaced
        flagThenAnything nullThenNulls).2.diagnostics =
          refused.2.diagnostics ∧
      (plainPointers.assign .unplaced flagThenAnything flagThenNulls).1 =
        true ∧
      (initial .standard).assign .unplaced flagThenAnything flagThenNulls =
        (true, initial .standard) := by
  intro other refused
  have accepted :
      (plainPointers.assign .unplaced flagThenAnything flagThenNulls).1 =
        true :=
    rfl
  refine ⟨rfl, rfl, ?_, accepted, ?_⟩
  · rw [(assign_sees_two_options plainPointers .unplaced flagThenAnything
      nullThenNulls).1 other rfl rfl]
  · exact (assign_sees_two_options plainPointers .unplaced flagThenAnything
      flagThenNulls).2 .standard rfl rfl accepted

end Checker

end TypeRules
