import Mathlib.Algebra.Ring.Int.Defs
import TypeRules.Proofs.Reporting
import TypeRules.Ty.Induction

/-!
# The rules of assignability

`Ty.obstacle?` tries one reason after another and returns early.  `Assignable`
says the same as a set of rules without an order: a value may be stored if some
rule allows it, and rules may overlap.  The main result is that the two agree on
all types, whatever a checker has reported or spelled before.
-/

namespace TypeRules

/-! ## The rules -/

/--
The integers that an integer kind takes as constants.  A width of no bits or of
more than 64 takes none.
-/
def Kind.Holds (options : Options) (value : Int) : Kind Ty → Prop
  | .int width =>
      (1 ≤ width ∧ width ≤ 64) ∧
        -2 ^ (width - 1) ≤ value ∧ value < 2 ^ (width - 1)
  | .uint width =>
      (1 ≤ width ∧ width ≤ 64) ∧
        match options.unsignedRange with
        | .exact => 0 ≤ value ∧ value < 2 ^ width
        | .signed => -2 ^ (width - 1) ≤ value ∧ value < 2 ^ (width - 1)
  | _ => False

/-- A value of the second type may be stored in a location of the first. -/
inductive Assignable (options : Options) : Ty → Ty → Prop where
  | same {dest source : Ty} (ids : dest.id = source.id) :
      Assignable options dest source
  | toUnknown {dest source : Ty} (unknown : dest.kind = .unknown) :
      Assignable options dest source
  | toAny {dest source : Ty} (any : dest.kind = .any) :
      Assignable options dest source
  | ofUnknown {dest source : Ty} (unknown : source.kind = .unknown) :
      Assignable options dest source
  | nilPointer {dest source target base : Ty}
      (enabled : options.nilPointer = true)
      (pointer : dest.kind = .pointer target)
      (nil : source.kind = .pointer base) (any : base.kind = .any) :
      Assignable options dest source
  | constantToFloat {dest source : Ty} {width : Nat} {constant : Constant}
      (float : dest.kind = .float width)
      (untyped : source.kind = .untyped constant) :
      Assignable options dest source
  | constantToInteger {dest source : Ty} {constant : Constant}
      (untyped : source.kind = .untyped constant)
      (integral : constant.isIntegral = true)
      (holds : dest.kind.Holds options constant.toInt128.toInt) :
      Assignable options dest source
  /-- The length of the array does not matter. -/
  | listToArray {dest source element : Ty} {length : Nat} {sources : List Ty}
      (array : dest.kind = .array length element)
      (list : source.kind = .list sources)
      (each : ∀ part ∈ sources, Assignable options element part) :
      Assignable options dest source
  | listToSlice {dest source element : Ty} {sources : List Ty}
      (slice : dest.kind = .slice element)
      (list : source.kind = .list sources)
      (each : ∀ part ∈ sources, Assignable options element part) :
      Assignable options dest source
  | listToList {dest source : Ty} {dests sources : List Ty}
      (destList : dest.kind = .list dests)
      (sourceList : source.kind = .list sources)
      (lengths : dests.length = sources.length)
      (pairs :
        ∀ pair ∈ dests.zip sources, Assignable options pair.1 pair.2) :
      Assignable options dest source

/-! ## Constants -/

namespace IntRange

theorem contains_signed {width : Nat} {value : Int} :
    (signed width).contains value = true ↔
      -2 ^ (width - 1) ≤ value ∧ value < 2 ^ (width - 1) := by
  have half : ((Nat.pow 2 (width - 1) : Nat) : Int) = 2 ^ (width - 1) :=
    Int.natCast_pow 2 (width - 1)
  rw [contains, signed, half, decide_eq_true_iff, Int.le_sub_one_iff]

theorem contains_unsigned {width : Nat} {value : Int} :
    (unsigned width).contains value = true ↔
      0 ≤ value ∧ value < 2 ^ width := by
  have whole : ((Nat.pow 2 width : Nat) : Int) = 2 ^ width :=
    Int.natCast_pow 2 width
  rw [contains, unsigned, whole, decide_eq_true_iff, Int.le_sub_one_iff]

end IntRange

theorem holdsConstants_iff {width : Nat} :
    holdsConstants width = true ↔ 1 ≤ width ∧ width ≤ 64 := by
  simp [holdsConstants]

namespace Kind

theorem holds_iff {options : Options} {value : Int} {kind : Kind Ty} :
    kind.Holds options value ↔
      (kind.constantRange? options).any (·.contains value) = true := by
  cases kind with
  | int width =>
      rw [Holds, constantRange?, ← holdsConstants_iff]
      split_ifs with fits
      · rw [Option.any_some, IntRange.contains_signed]
        exact and_iff_right fits
      · simp [fits]
  | uint width =>
      rw [Holds, constantRange?, ← holdsConstants_iff]
      split_ifs with fits
      · cases options.unsignedRange with
        | exact =>
            rw [Option.any_some, IntRange.contains_unsigned]
            exact and_iff_right fits
        | signed =>
            rw [Option.any_some, IntRange.contains_signed]
            exact and_iff_right fits
      · simp [fits]
  | bool | string | float | pointer | array | slice | struct | func | list
  | untyped | unknown | any | void | variadicAny =>
      simp [Holds, constantRange?]

theorem Holds.isInteger {options : Options} {value : Int} {kind : Kind Ty}
    (holds : kind.Holds options value) : kind.isInteger = true := by
  cases kind with
  | int | uint => rfl
  | bool | string | float | pointer | array | slice | struct | func | list
  | untyped | unknown | any | void | variadicAny => cases holds

end Kind

theorem Ty.constantObstacle?_eq_none_iff {options : Options}
    {dest source : Ty} {constant : Constant} :
    dest.constantObstacle? options source constant = none ↔
      (∃ width, dest.kind = .float width) ∨
        constant.isIntegral = true ∧
          dest.kind.Holds options constant.toInt128.toInt := by
  rw [Kind.holds_iff]
  unfold Ty.constantObstacle?
  split
  · next kind => simp [kind]
  · next kind => cases constant.isIntegral <;> simp [kind]
  · next kind => cases constant.isIntegral <;> simp [kind]
  · next noFloat noInt noUint =>
      have outside : ¬ (dest.kind.constantRange? options).any
          (·.contains constant.toInt128.toInt) = true := by
        intro within
        have integer := (Kind.holds_iff.mpr within).isInteger
        cases kind : dest.kind <;> simp_all [Kind.isInteger]
      constructor
      · intro free
        cases free
      · rintro (⟨width, float⟩ | ⟨-, within⟩)
        · exact (noFloat width float).elim
        · exact (outside within).elim

/-! ## Lists -/

theorem eachObstacle?_eq_findSome? (options : Options) (dest : Ty)
    (sources : List Ty) :
    eachObstacle? options dest sources =
      sources.findSome? (dest.obstacle? options) := by
  induction sources with
  | nil => rfl
  | cons source sources inductionHypothesis =>
      rw [eachObstacle?, List.findSome?_cons]
      cases dest.obstacle? options source with
      | none => exact inductionHypothesis
      | some problem => rfl

theorem pairwiseObstacle?_eq_findSome? (options : Options)
    (dests sources : List Ty) :
    pairwiseObstacle? options dests sources =
      (dests.zip sources).findSome?
        fun pair => pair.1.obstacle? options pair.2 := by
  induction sources generalizing dests with
  | nil => simp [pairwiseObstacle?]
  | cons source sources inductionHypothesis =>
      cases dests with
      | nil => rfl
      | cons dest dests =>
          rw [pairwiseObstacle?, List.zip_cons_cons, List.findSome?_cons]
          cases dest.obstacle? options source with
          | none => exact inductionHypothesis dests
          | some problem => rfl

/-! ## The decision follows the rules -/

namespace Kind

theorem isAny_iff {τ : Type} {kind : Kind τ} :
    kind.isAny = true ↔ kind = .any := by
  cases kind <;> simp [isAny]

theorem isPointer_iff {kind : Kind Ty} :
    kind.isPointer = true ↔ ∃ target, kind = .pointer target := by
  cases kind <;> simp [isPointer]

theorem isPointerToAny_iff {kind : Kind Ty} :
    kind.isPointerToAny = true ↔
      ∃ base, kind = .pointer base ∧ base.kind = .any := by
  cases kind <;> simp [isPointerToAny, isAny_iff]

end Kind

namespace Ty

theorem acceptsOutright_iff {options : Options} {dest source : Ty} :
    dest.acceptsOutright options source = true ↔
      dest.id = source.id ∨ dest.kind = .unknown ∨ dest.kind = .any ∨
        source.kind = .unknown ∨
        options.nilPointer = true ∧ (∃ target, dest.kind = .pointer target) ∧
          ∃ base, source.kind = .pointer base ∧ base.kind = .any := by
  simp only [acceptsOutright, same, Bool.or_eq_true, Bool.and_eq_true,
    beq_iff_eq, Kind.isUnknown_iff, Kind.isAny_iff, Kind.isPointer_iff,
    Kind.isPointerToAny_iff, or_assoc, and_assoc]

theorem assignable_of_acceptsOutright {options : Options} {dest source : Ty}
    (accepted : dest.acceptsOutright options source = true) :
    Assignable options dest source := by
  rcases acceptsOutright_iff.mp accepted with
    ids | unknown | any | unknown |
      ⟨enabled, ⟨target, pointer⟩, base, nil, any⟩
  · exact .same ids
  · exact .toUnknown unknown
  · exact .toAny any
  · exact .ofUnknown unknown
  · exact .nilPointer enabled pointer nil any

theorem obstacle?_eq (options : Options) (dest source : Ty) :
    dest.obstacle? options source =
      if dest.acceptsOutright options source then none
      else source.kind.obstacle? options dest source := by
  cases source
  rfl

theorem obstacle?_of_acceptsOutright {options : Options} {dest source : Ty}
    (accepted : dest.acceptsOutright options source = true) :
    dest.obstacle? options source = none := by
  rw [obstacle?_eq, if_pos accepted]

/-- What is stored without an obstacle is allowed by a rule. -/
theorem assignable_of_obstacle? {options : Options} {dest source : Ty}
    (free : dest.obstacle? options source = none) :
    Assignable options dest source := by
  induction source using Ty.induction_on_components generalizing dest with
  | step source inductionHypothesis =>
      rw [obstacle?_eq] at free
      split_ifs at free with outright
      · exact assignable_of_acceptsOutright outright
      cases kind : source.kind with
      | untyped constant =>
          rw [kind, Kind.obstacle?, constantObstacle?_eq_none_iff] at free
          rcases free with ⟨width, float⟩ | ⟨integral, holds⟩
          · exact .constantToFloat float kind
          · exact .constantToInteger kind integral holds
      | list sources =>
          rw [kind] at inductionHypothesis
          rw [kind, Kind.obstacle?] at free
          split at free
          · next length element array =>
              rw [eachObstacle?_eq_findSome?, List.findSome?_eq_none_iff]
                at free
              refine .listToArray array kind ?_
              intro part member
              exact inductionHypothesis part member (free part member)
          · next element slice =>
              rw [eachObstacle?_eq_findSome?, List.findSome?_eq_none_iff]
                at free
              refine .listToSlice slice kind ?_
              intro part member
              exact inductionHypothesis part member (free part member)
          · next dests list =>
              split_ifs at free with lengths
              rw [pairwiseObstacle?_eq_findSome?,
                List.findSome?_eq_none_iff] at free
              refine .listToList list kind lengths ?_
              intro pair member
              exact inductionHypothesis pair.2 (List.of_mem_zip member).2
                (free pair member)
          · cases free
      | bool | string | int | uint | float | pointer | array | slice
      | struct | func | unknown | any | void | variadicAny =>
          rw [kind] at free
          cases free

/-- What a rule allows is stored without an obstacle. -/
theorem obstacle?_of_assignable {options : Options} {dest source : Ty}
    (assignable : Assignable options dest source) :
    dest.obstacle? options source = none := by
  -- A derivation by one of the last rules may be about types that are
  -- accepted outright as well, so both branches have to be gone through.
  have shaped {dest source : Ty}
      (free : source.kind.obstacle? options dest source = none) :
      dest.obstacle? options source = none := by
    rw [obstacle?_eq, free, ite_self]
  induction assignable with
  | same ids =>
      exact obstacle?_of_acceptsOutright (acceptsOutright_iff.mpr (.inl ids))
  | toUnknown unknown =>
      exact obstacle?_of_acceptsOutright (acceptsOutright_iff.mpr
        (.inr (.inl unknown)))
  | toAny any =>
      exact obstacle?_of_acceptsOutright (acceptsOutright_iff.mpr
        (.inr (.inr (.inl any))))
  | ofUnknown unknown =>
      exact obstacle?_of_acceptsOutright (acceptsOutright_iff.mpr
        (.inr (.inr (.inr (.inl unknown)))))
  | nilPointer enabled pointer nil any =>
      exact obstacle?_of_acceptsOutright (acceptsOutright_iff.mpr
        (.inr (.inr (.inr (.inr
          ⟨enabled, ⟨_, pointer⟩, _, nil, any⟩)))))
  | constantToFloat float untyped =>
      apply shaped
      rw [untyped, Kind.obstacle?, constantObstacle?_eq_none_iff]
      exact Or.inl ⟨_, float⟩
  | constantToInteger untyped integral holds =>
      apply shaped
      rw [untyped, Kind.obstacle?, constantObstacle?_eq_none_iff]
      exact Or.inr ⟨integral, holds⟩
  | listToArray array list _ inductionHypothesis =>
      apply shaped
      simp only [list, Kind.obstacle?, array]
      rw [eachObstacle?_eq_findSome?, List.findSome?_eq_none_iff]
      exact inductionHypothesis
  | listToSlice slice list _ inductionHypothesis =>
      apply shaped
      simp only [list, Kind.obstacle?, slice]
      rw [eachObstacle?_eq_findSome?, List.findSome?_eq_none_iff]
      exact inductionHypothesis
  | listToList destList sourceList lengths _ inductionHypothesis =>
      apply shaped
      simp only [sourceList, Kind.obstacle?, destList, if_pos lengths]
      rw [pairwiseObstacle?_eq_findSome?, List.findSome?_eq_none_iff]
      exact inductionHypothesis

theorem obstacle?_eq_none_iff {options : Options} {dest source : Ty} :
    dest.obstacle? options source = none ↔ Assignable options dest source :=
  ⟨assignable_of_obstacle?, obstacle?_of_assignable⟩

end Ty

namespace Checker

theorem assign_eq_true_iff {checker : Checker} {span : Span}
    {dest source : Ty} :
    (checker.assign span dest source).1 = true ↔
      dest.obstacle? checker.options source = none := by
  unfold assign
  split <;> simp_all

/--
A value may be stored exactly if the rules allow it.  The answer is the same
from every arena, with whatever names and spellings it has, after any
diagnostics and at every place.
-/
theorem assign_iff_assignable (options : Options) (dest source : Ty)
    (arena : Arena) (diagnostics : List Diagnostic) (span : Span) :
    ((assign ⟨arena, options, diagnostics⟩ span dest source).1 = true ↔
        Assignable options dest source) ∧
      ∀ (otherArena : Arena) (otherDiagnostics : List Diagnostic)
        (otherSpan : Span),
        (assign ⟨otherArena, options, otherDiagnostics⟩ otherSpan dest
            source).1 =
          (assign ⟨arena, options, diagnostics⟩ span dest source).1 := by
  have decides (arena : Arena) (diagnostics : List Diagnostic)
      (span : Span) :
      (assign ⟨arena, options, diagnostics⟩ span dest source).1 = true ↔
        Assignable options dest source := by
    rw [assign_eq_true_iff]
    exact Ty.obstacle?_eq_none_iff
  refine ⟨decides arena diagnostics span, ?_⟩
  intro otherArena otherDiagnostics otherSpan
  rw [Bool.eq_iff_iff]
  exact (decides otherArena otherDiagnostics otherSpan).trans
    (decides arena diagnostics span).symm

end Checker

end TypeRules
