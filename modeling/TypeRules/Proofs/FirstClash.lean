import Mathlib.Data.List.Lex
import TypeRules.Proofs.Assignability
import TypeRules.Proofs.Stepwise

/-!
# The first clash

Storing a list of types comes down to storing its parts, and these may be lists
again.  A pair of types that is met on the way has a position: the numbers of
the parts that lead to it.  Going through the pairs from left to right and in
depth is going through their positions in lexicographic order.

A pair clashes if it cannot be stored and has no parts to blame.  The main
result is that a failed assignment reports the clash at the least position, with
the problem that this pair calls for, and nothing else.  This holds just as well
of the assignment in steps, where each part reports for itself.
-/

namespace TypeRules

namespace Ty

/-! ## Pairs and their positions -/

/-- The pairs that storing one type in another comes down to, in order. -/
def parts (dest source : Ty) : List (Ty × Ty) :=
  if dest.id = source.id then []
  else
    match dest.kind, source.kind with
    | .array _ element, .list sources =>
        sources.map fun part => (element, part)
    | .slice element, .list sources => sources.map fun part => (element, part)
    | .list dests, .list sources =>
        if dests.length = sources.length then dests.zip sources else []
    | _, _ => []

/-- The pair at a position, if there is one. -/
def pairAt? (dest source : Ty) : List Nat → Option (Ty × Ty)
  | [] => some (dest, source)
  | index :: position =>
      match (dest.parts source)[index]? with
      | some part => part.1.pairAt? part.2 position
      | none => none

/-- The pair cannot be stored, and not because of one of its parts. -/
def Clash (options : Options) (dest source : Ty) : Prop :=
  dest.parts source = [] ∧ ¬ Assignable options dest source

/-- The clash whose position comes before those of all others. -/
structure FirstClash (options : Options) (dest source : Ty)
    (position : List Nat) (pair : Ty × Ty) : Prop where
  located : dest.pairAt? source position = some pair
  clash : Clash options pair.1 pair.2
  first :
    ∀ other otherPair, dest.pairAt? source other = some otherPair →
      Clash options otherPair.1 otherPair.2 →
        other = position ∨ List.Lex (· < ·) position other

/-- The problem that a clash calls for. -/
inductive Mismatch (options : Options) (dest source : Ty) :
    Problem Ty → Prop where
  | lengths {dests sources : List Ty} (destList : dest.kind = .list dests)
      (sourceList : source.kind = .list sources)
      (differ : dests.length ≠ sources.length) :
      Mismatch options dest source
        (.lengthMismatch dests.length sources.length)
  | truncated {constant : Constant} (integer : dest.kind.isInteger = true)
      (untyped : source.kind = .untyped constant)
      (fractional : constant.isIntegral = false) :
      Mismatch options dest source (.truncated constant.text dest)
  | overflows {constant : Constant} (integer : dest.kind.isInteger = true)
      (untyped : source.kind = .untyped constant)
      (integral : constant.isIntegral = true)
      (outside : ¬ dest.kind.Holds options constant.toInt128.toInt) :
      Mismatch options dest source (.overflows constant.text dest)
  /-- None of the other problems is there. -/
  | incompatible
      (sameLength :
        ∀ dests sources, dest.kind = .list dests →
          source.kind = .list sources → dests.length = sources.length)
      (held :
        ∀ constant, dest.kind.isInteger = true →
          source.kind = .untyped constant →
          constant.isIntegral = true ∧
            dest.kind.Holds options constant.toInt128.toInt) :
      Mismatch options dest source (.incompatible source dest)

theorem Mismatch.unique {options : Options} {dest source : Ty}
    {problem other : Problem Ty}
    (mismatch : Mismatch options dest source problem)
    (otherMismatch : Mismatch options dest source other) :
    other = problem := by
  cases mismatch <;> cases otherMismatch <;> simp_all

/-! ## Obstacles come from parts -/

theorem snd_mem_components_of_mem_parts {dest source : Ty} {part : Ty × Ty}
    (member : part ∈ dest.parts source) :
    part.2 ∈ source.kind.components := by
  unfold parts at member
  split at member
  · cases member
  split at member
  · next list =>
      rcases List.mem_map.mp member with ⟨inner, listed, rfl⟩
      rw [list]
      exact listed
  · next list =>
      rcases List.mem_map.mp member with ⟨inner, listed, rfl⟩
      rw [list]
      exact listed
  · next list =>
      split_ifs at member
      · rw [list]
        exact (List.of_mem_zip member).2
      · cases member
  · cases member

/-- A pair with parts has the first obstacle that a part of it has. -/
theorem obstacle?_of_parts {options : Options} {dest source : Ty}
    (broken : dest.parts source ≠ []) :
    dest.obstacle? options source =
      (dest.parts source).findSome?
        fun part => part.1.obstacle? options part.2 := by
  have shaped {sources : List Ty} (differ : dest.id ≠ source.id)
      (list : source.kind = .list sources)
      (proper : dest.kind ≠ .unknown ∧ dest.kind ≠ .any) :
      dest.obstacle? options source =
        (Kind.list sources).obstacle? options dest source := by
    have shut : ¬ dest.acceptsOutright options source = true := by
      rw [acceptsOutright_iff]
      simp [differ, list, proper]
    rw [obstacle?_eq, if_neg shut, list]
  unfold parts at broken ⊢
  split at broken
  · exact absurd rfl broken
  next differ =>
  rw [if_neg differ]
  split
  · next array list =>
      rw [shaped differ list (by simp [array]), Kind.obstacle?, array]
      simp only [eachObstacle?_eq_findSome?, List.findSome?_map]
      rfl
  · next slice list =>
      rw [shaped differ list (by simp [slice]), Kind.obstacle?, slice]
      simp only [eachObstacle?_eq_findSome?, List.findSome?_map]
      rfl
  · next dests sources destList list =>
      rw [shaped differ list (by simp [destList]), Kind.obstacle?, destList]
      simp only [pairwiseObstacle?_eq_findSome?]
      split_ifs with lengths
      · rfl
      · simp [destList, list, lengths] at broken
  · next noArray noSlice noList =>
      split at broken <;> simp_all

theorem constantObstacle?_of_isInteger {dest : Ty}
    (integer : dest.kind.isInteger = true) (options : Options) (source : Ty)
    (constant : Constant) :
    dest.constantObstacle? options source constant =
      if !constant.isIntegral then some (.truncated constant.text dest)
      else if (dest.kind.constantRange? options).any
          (·.contains constant.toInt128.toInt) then none
      else some (.overflows constant.text dest) := by
  unfold constantObstacle?
  split
  · next kind =>
      rw [kind] at integer
      cases integer
  · rfl
  · rfl
  · next noInt noUint =>
      cases kind : dest.kind <;> simp_all [Kind.isInteger]

theorem mismatch_of_constantObstacle? {options : Options} {dest source : Ty}
    {constant : Constant} {problem : Problem Ty}
    (untyped : source.kind = .untyped constant)
    (found :
      dest.constantObstacle? options source constant = some problem) :
    Mismatch options dest source problem := by
  by_cases integer : dest.kind.isInteger = true
  · rw [constantObstacle?_of_isInteger integer] at found
    split_ifs at found with fractional outside
    · cases found
      exact .truncated integer untyped (by simpa using fractional)
    · cases found
      refine .overflows integer untyped (by simpa using fractional) ?_
      rw [Kind.holds_iff]
      exact outside
  · have plain : problem = .incompatible source dest := by
      unfold constantObstacle? at found
      split at found <;> simp_all [Kind.isInteger]
    subst plain
    refine .incompatible ?_ ?_
    · intro dests sources _ list
      rw [untyped] at list
      cases list
    · intro constant held
      exact (integer held).elim

/-- An obstacle to a pair without parts is the problem the pair calls for. -/
theorem mismatch_of_obstacle? {options : Options} {dest source : Ty}
    {problem : Problem Ty} (whole : dest.parts source = [])
    (found : dest.obstacle? options source = some problem) :
    Mismatch options dest source problem := by
  have differ : dest.id ≠ source.id := by
    intro ids
    rw [obstacle?_of_assignable (.same ids)] at found
    cases found
  rw [parts, if_neg differ] at whole
  rw [obstacle?_eq] at found
  split_ifs at found
  cases kind : source.kind with
  | untyped constant =>
      rw [kind] at found
      exact mismatch_of_constantObstacle? kind found
  | list sources =>
      rw [kind, Kind.obstacle?] at found
      split at found
      · next array =>
          simp only [array, kind, List.map_eq_nil_iff] at whole
          subst whole
          cases found
      · next slice =>
          simp only [slice, kind, List.map_eq_nil_iff] at whole
          subst whole
          cases found
      · next dests list =>
          simp only [list, kind] at whole
          split_ifs at found with lengths
          · rw [if_pos lengths] at whole
            rw [pairwiseObstacle?_eq_findSome?, whole] at found
            cases found
          · cases found
            exact .lengths list kind lengths
      · next noList =>
          cases found
          refine .incompatible ?_ ?_
          · intro dests _ list
            exact (noList dests list).elim
          · intro constant _ untyped
            rw [kind] at untyped
            cases untyped
  | bool | string | int | uint | float | pointer | array | slice | struct
  | func | unknown | any | void | variadicAny =>
      rw [kind] at found
      cases found
      refine .incompatible ?_ ?_ <;> simp [kind]

/-! ## The first clash is found -/

theorem assignable_of_mem_parts {options : Options} {dest source : Ty}
    (assignable : Assignable options dest source) {part : Ty × Ty}
    (member : part ∈ dest.parts source) :
    Assignable options part.1 part.2 := by
  have free := obstacle?_of_assignable assignable
  rw [obstacle?_of_parts (List.ne_nil_of_mem member),
    List.findSome?_eq_none_iff] at free
  exact assignable_of_obstacle? (free part member)

/-- Nothing clashes within a pair that can be stored. -/
theorem not_clash_of_assignable {options : Options} {dest source : Ty}
    (assignable : Assignable options dest source) {position : List Nat}
    {pair : Ty × Ty} (located : dest.pairAt? source position = some pair) :
    ¬ Clash options pair.1 pair.2 := by
  induction position generalizing dest source with
  | nil =>
      cases located
      intro clash
      exact clash.2 assignable
  | cons index position inductionHypothesis =>
      rw [pairAt?] at located
      split at located
      · next part found =>
          have member := List.mem_of_getElem? found
          exact inductionHypothesis
            (assignable_of_mem_parts assignable member) located
      · cases located

/-- The first clash of the first part that has an obstacle comes first. -/
theorem FirstClash.of_part {options : Options} {dest source : Ty}
    {before after : List (Ty × Ty)} {part pair : Ty × Ty}
    {position : List Nat}
    (split : dest.parts source = before ++ part :: after)
    (free : ∀ earlier ∈ before, Assignable options earlier.1 earlier.2)
    (inner : FirstClash options part.1 part.2 position pair) :
    FirstClash options dest source (before.length :: position) pair where
  located := by
    have found : (dest.parts source)[before.length]? = some part := by
      rw [split, List.getElem?_append_right (Nat.le_refl _), Nat.sub_self]
      rfl
    rw [pairAt?, found]
    exact inner.located
  clash := inner.clash
  first := by
    intro other otherPair located clash
    cases other with
    | nil =>
        cases located
        have none := clash.1
        simp [split] at none
    | cons index other =>
        rw [pairAt?] at located
        cases found : (dest.parts source)[index]? with
        | none =>
            rw [found] at located
            cases located
        | some otherPart =>
            rw [found] at located
            rw [split] at found
            rcases Nat.lt_trichotomy before.length index with
              later | same | earlier
            · exact Or.inr (.rel later)
            · subst same
              have parts : part = otherPart := by
                simpa using found
              subst parts
              rcases inner.first other otherPair located clash with
                rfl | later
              · exact Or.inl rfl
              · exact Or.inr (.cons later)
            · rw [List.getElem?_append_left earlier] at found
              have assignable := free otherPart (List.mem_of_getElem? found)
              exact (not_clash_of_assignable assignable located clash).elim

/-- A pair without parts that cannot be stored is its own first clash. -/
theorem FirstClash.of_clash {options : Options} {dest source : Ty}
    (clash : Clash options dest source) :
    FirstClash options dest source [] (dest, source) where
  located := rfl
  clash := clash
  first := by
    intro other _ _ _
    cases other with
    | nil => exact Or.inl rfl
    | cons index other => exact Or.inr .nil

theorem FirstClash.unique {options : Options} {dest source : Ty}
    {position other : List Nat} {pair otherPair : Ty × Ty}
    (first : FirstClash options dest source position pair)
    (otherFirst : FirstClash options dest source other otherPair) :
    other = position ∧ otherPair = pair := by
  have same : other = position := by
    rcases first.first other otherPair otherFirst.located otherFirst.clash with
      same | before
    · exact same
    · rcases otherFirst.first position pair first.located first.clash with
        same | after
      · exact same.symm
      · exact (asymm_of (List.Lex (· < ·)) before after).elim
  subst same
  refine ⟨rfl, Option.some.inj ?_⟩
  rw [← otherFirst.located, first.located]

/-- An obstacle is the problem that the first clash calls for. -/
theorem exists_firstClash {options : Options} {dest source : Ty}
    {problem : Problem Ty}
    (found : dest.obstacle? options source = some problem) :
    ∃ position pair, FirstClash options dest source position pair ∧
      Mismatch options pair.1 pair.2 problem := by
  induction source using Ty.induction_on_components generalizing dest with
  | step source inductionHypothesis =>
      by_cases whole : dest.parts source = []
      · have blocked : ¬ Assignable options dest source := by
          intro assignable
          rw [obstacle?_of_assignable assignable] at found
          cases found
        exact ⟨[], (dest, source), .of_clash ⟨whole, blocked⟩,
          mismatch_of_obstacle? whole found⟩
      · rw [obstacle?_of_parts whole, List.findSome?_eq_some_iff] at found
        rcases found with ⟨before, part, after, split, found, free⟩
        have member : part ∈ dest.parts source := by
          rw [split]
          exact List.mem_append_right before List.mem_cons_self
        rcases inductionHypothesis part.2
            (snd_mem_components_of_mem_parts member) found with
          ⟨position, pair, first, mismatch⟩
        refine ⟨_, pair, .of_part split ?_ first, mismatch⟩
        intro earlier listed
        exact assignable_of_obstacle? (free earlier listed)

end Ty

/-! ## What an assignment reports -/

namespace Checker

/-- A problem at a place, its types spelled from left to right. -/
def diagnosticOf (checker : Checker) (span : Span) (problem : Problem Ty) :
    Diagnostic where
  problem :=
    ((problem.mapM (Ty.spelling checker.arena.shown)).run
      checker.arena.printed).1
  span := span

theorem report_diagnostics_eq (checker : Checker) (span : Span)
    (problem : Problem Ty) :
    (checker.report span problem).diagnostics =
      checker.diagnostics ++ [checker.diagnosticOf span problem] :=
  rfl

/--
An assignment comes to the same whether it is taken in steps, where every pair
reports for itself, or the first obstacle is looked for and then reported.  If
it succeeds it changes nothing.  If it fails it adds a single diagnostic at the
given place, with the one problem that the first clash calls for.
-/
theorem assign_reports_first_clash (checker : Checker) (span : Span)
    (dest source : Ty) :
    (Stepwise.assign span dest source).run checker =
        checker.assign span dest source ∧
      ((checker.assign span dest source).1 = true →
        (checker.assign span dest source).2 = checker) ∧
      ((checker.assign span dest source).1 = false →
        ∃ position pair problem,
          Ty.FirstClash checker.options dest source position pair ∧
          Ty.Mismatch checker.options pair.1 pair.2 problem ∧
          (∀ other, Ty.Mismatch checker.options pair.1 pair.2 other →
            other = problem) ∧
          (checker.assign span dest source).2.diagnostics =
            checker.diagnostics ++ [checker.diagnosticOf span problem]) := by
  refine ⟨Stepwise.assign_run span checker dest source, ?_⟩
  rw [assign]
  cases found : dest.obstacle? checker.options source with
  | none => simp
  | some problem =>
      refine ⟨by simp, ?_⟩
      intro _
      rcases Ty.exists_firstClash found with
        ⟨position, pair, first, mismatch⟩
      exact ⟨position, pair, problem, first, mismatch,
        fun other => mismatch.unique, checker.report_diagnostics_eq span _⟩

/-- A constant of the given id. -/
def number (id : Nat) (value : Int) : Ty :=
  ⟨id, none, .untyped (.ofInt128 (.saturate value))⟩

/-- Two bytes and a string to be assigned to. -/
def bytesAndText : Ty :=
  ⟨8, none, .list [⟨7, none, .array 2 ⟨6, none, .int 8⟩⟩, Ty.string]⟩

/-- A pair of numbers and a truth value, of which two do not fit there. -/
def numbersAndFlag : Ty :=
  ⟨12, none, .list [⟨11, none, .list [number 9 1, number 10 300]⟩, Ty.bool]⟩

theorem firstClash_numbersAndFlag :
    Ty.FirstClash .standard bytesAndText numbersAndFlag [0, 1]
      (⟨6, none, .int 8⟩, number 10 300) := by
  let byte : Ty := ⟨6, none, .int 8⟩
  let bytes : Ty := ⟨7, none, .array 2 byte⟩
  let numbers : Ty := ⟨11, none, .list [number 9 1, number 10 300]⟩
  have outer :
      bytesAndText.parts numbersAndFlag =
        [] ++ (bytes, numbers) :: [(Ty.string, Ty.bool)] :=
    rfl
  have inner :
      bytes.parts numbers =
        [(byte, number 9 1)] ++ (byte, number 10 300) :: [] :=
    rfl
  have fits : Assignable .standard byte (number 9 1) :=
    Ty.assignable_of_obstacle? rfl
  have tooLarge : Ty.Clash .standard byte (number 10 300) := by
    refine ⟨rfl, ?_⟩
    intro assignable
    cases Ty.obstacle?_of_assignable assignable
  exact .of_part outer (by simp)
    (.of_part inner (List.forall_mem_singleton.mpr fits) (.of_clash tooLarge))

theorem assign_reports_first_clash_numbersAndFlag :
    let asked :=
      (initial .standard).assign .unplaced bytesAndText numbersAndFlag
    (Stepwise.assign .unplaced bytesAndText numbersAndFlag).run
          (initial .standard) = asked ∧
      asked.1 = false ∧
      Ty.FirstClash .standard bytesAndText numbersAndFlag [0, 1]
        (⟨6, none, .int 8⟩, number 10 300) ∧
      Ty.Mismatch .standard ⟨6, none, .int 8⟩ (number 10 300)
        (.overflows "300" ⟨6, none, .int 8⟩) ∧
      asked.2.diagnostics = [⟨.overflows "300" "int8", .unplaced⟩] := by
  intro asked
  have failed : asked.1 = false := rfl
  have overflows :
      Ty.Mismatch .standard ⟨6, none, .int 8⟩ (number 10 300)
        (.overflows "300" ⟨6, none, .int 8⟩) :=
    Ty.mismatch_of_obstacle? rfl rfl
  rcases assign_reports_first_clash (initial .standard) .unplaced
      bytesAndText numbersAndFlag with ⟨stepwise, -, reports⟩
  rcases reports failed with
    ⟨position, pair, problem, first, -, only, appended⟩
  rcases firstClash_numbersAndFlag.unique first with ⟨rfl, rfl⟩
  rw [← only _ overflows] at appended
  exact ⟨stepwise, failed, first, overflows, appended⟩

end Checker

end TypeRules
