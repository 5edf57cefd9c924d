import TypeRules.Proofs.Outcomes
import TypeRules.Ty.Induction

/-!
# Where the types of a verdict come from

A verdict refers to types in its result and in its problems.  All of them are
operands of the operation, parts of operands, or types that are always there.
This is said with a property `owns` of types that passes to components, such as
being a type of a certain arena: if the operands have it, then so has every
type that the verdict refers to.
-/

namespace TypeRules

/-- A property of the types that are always there and of parts of its types. -/
structure Ty.Closed (owns : Ty → Prop) : Prop where
  unknown : owns Ty.unknown
  void : owns Ty.void
  components :
    ∀ type, owns type → ∀ component ∈ type.kind.components, owns component

/-- Every type that the problem refers to has the property. -/
def Problem.Owned (owns : Ty → Prop) (problem : Problem Ty) : Prop :=
  ∀ type ∈ problem.types, owns type

/-- The type that the result is, or is made from, has the property. -/
def Result.Owned (owns : Ty → Prop) : Result → Prop
  | .type known => owns known
  | .constant _ => True
  | .pointerTo base => owns base

/-- Every type that the verdict refers to has the property. -/
structure Verdict.Owned (owns : Ty → Prop) (verdict : Verdict) : Prop where
  result : verdict.result.Owned owns
  problems : ∀ problem ∈ verdict.problems, problem.Owned owns

variable {owns : Ty → Prop}

namespace Problem.Owned

variable {problem : Problem Ty}

theorem one {operand : Ty} (refers : problem.types = [operand])
    (owned : owns operand) : problem.Owned owns := by
  rw [Problem.Owned, refers]
  exact List.forall_mem_singleton.mpr owned

theorem two {left right : Ty} (refers : problem.types = [left, right])
    (leftOwned : owns left) (rightOwned : owns right) :
    problem.Owned owns := by
  rw [Problem.Owned, refers, List.forall_mem_cons, List.forall_mem_singleton]
  exact ⟨leftOwned, rightOwned⟩

end Problem.Owned

/-! ## Obstacles -/

theorem Ty.constantObstacle?_owned {options : Options} {dest source : Ty}
    {constant : Constant} {problem : Problem Ty}
    (destOwned : owns dest) (sourceOwned : owns source)
    (found :
      dest.constantObstacle? options source constant = some problem) :
    problem.Owned owns := by
  unfold Ty.constantObstacle? at found
  split at found
  · cases found
  · split_ifs at found <;> cases found <;> exact .one rfl destOwned
  · split_ifs at found <;> cases found <;> exact .one rfl destOwned
  · cases found
    exact .two rfl sourceOwned destOwned

theorem eachObstacle?_owned {options : Options} {dest : Ty}
    {sources : List Ty} {problem : Problem Ty}
    (each :
      ∀ source ∈ sources, ∀ problem,
        dest.obstacle? options source = some problem → problem.Owned owns)
    (found : eachObstacle? options dest sources = some problem) :
    problem.Owned owns := by
  induction sources with
  | nil => cases found
  | cons source sources inductionHypothesis =>
      rw [List.forall_mem_cons] at each
      rw [eachObstacle?] at found
      split at found
      · next first obstacle =>
          cases found
          exact each.1 _ obstacle
      · exact inductionHypothesis each.2 found

theorem pairwiseObstacle?_owned {options : Options} {dests sources : List Ty}
    {problem : Problem Ty}
    (each :
      ∀ source ∈ sources, ∀ dest ∈ dests, ∀ problem,
        dest.obstacle? options source = some problem → problem.Owned owns)
    (found : pairwiseObstacle? options dests sources = some problem) :
    problem.Owned owns := by
  induction sources generalizing dests with
  | nil => cases found
  | cons source sources inductionHypothesis =>
      cases dests with
      | nil => cases found
      | cons dest dests =>
          rw [pairwiseObstacle?] at found
          split at found
          · next first obstacle =>
              cases found
              exact each source List.mem_cons_self dest List.mem_cons_self _
                obstacle
          · apply inductionHypothesis _ found
            intro source sourceMember dest destMember
            exact each source (List.mem_cons_of_mem _ sourceMember) dest
              (List.mem_cons_of_mem _ destMember)

/-- An obstacle refers to parts of the two types only. -/
theorem Ty.obstacle?_owned
    (closed :
      ∀ type, owns type → ∀ component ∈ type.kind.components, owns component)
    {options : Options} {dest source : Ty} {problem : Problem Ty}
    (destOwned : owns dest) (sourceOwned : owns source)
    (found : dest.obstacle? options source = some problem) :
    problem.Owned owns := by
  induction source using Ty.induction_on_components generalizing
    dest problem with
  | step source inductionHypothesis =>
      rcases source with ⟨id, name, kind⟩
      rw [Ty.obstacle?] at found
      split_ifs at found
      cases kind with
      | untyped constant =>
          exact Ty.constantObstacle?_owned destOwned sourceOwned found
      | list sources =>
          have elementwise (element : Ty)
              (part : element ∈ dest.kind.components)
              (found :
                eachObstacle? options element sources = some problem) :
              problem.Owned owns := by
            refine eachObstacle?_owned ?_ found
            intro source member problem
            apply inductionHypothesis source member
            · exact closed dest destOwned element part
            · exact closed _ sourceOwned source member
          rw [Kind.obstacle?] at found
          split at found
          · next length element kind =>
              exact elementwise element (by simp [kind, Kind.components]) found
          · next element kind =>
              exact elementwise element (by simp [kind, Kind.components]) found
          · next dests kind =>
              split_ifs at found
              · refine pairwiseObstacle?_owned ?_ found
                intro source member dest destMember problem
                apply inductionHypothesis source member
                · apply closed _ destOwned
                  rw [kind]
                  exact destMember
                · exact closed _ sourceOwned source member
              · cases found
                simp [Problem.Owned, Problem.types]
          · cases found
            exact .two rfl sourceOwned destOwned
      | bool | string | int | uint | float | pointer | array | slice
      | struct | func | unknown | any | void | variadicAny =>
          cases found
          exact .two rfl sourceOwned destOwned

/-! ## Verdicts -/

namespace Verdict.Owned

theorem yields {type : Ty} (owned : owns type) :
    (Verdict.yields type).Owned owns :=
  ⟨owned, by simp [Verdict.yields]⟩

theorem silent (closed : Ty.Closed owns) : Verdict.silent.Owned owns :=
  yields closed.unknown

theorem rejected (closed : Ty.Closed owns) {problems : List (Problem Ty)}
    (owned : ∀ problem ∈ problems, problem.Owned owns) :
    (Verdict.rejected problems).Owned owns :=
  ⟨closed.unknown, owned⟩

theorem rejectedOne (closed : Ty.Closed owns) {problem : Problem Ty}
    (owned : problem.Owned owns) :
    (Verdict.rejected [problem]).Owned owns :=
  rejected closed (List.forall_mem_singleton.mpr owned)

theorem ofFold (closed : Ty.Closed owns)
    (folded : Except FoldFailure Constant) :
    (Verdict.ofFold folded).Owned owns := by
  cases folded with
  | ok constant => exact ⟨trivial, by simp [Verdict.ofFold]⟩
  | error failure =>
      exact rejectedOne closed (by simp [Problem.Owned, Problem.types])

end Verdict.Owned

/-- The verdict of an operator refers to operands and parts of operands. -/
theorem Verdict.Outcome.owned {options : Options} {operands : List Ty}
    {verdict : Verdict} (outcome : verdict.Outcome options operands)
    (closed : Ty.Closed owns)
    (operandsOwned : ∀ operand ∈ operands, owns operand) :
    verdict.Owned owns := by
  cases outcome with
  | yields member => exact .yields (operandsOwned _ member)
  | base member pointer =>
      apply Verdict.Owned.yields
      apply closed.components _ (operandsOwned _ member)
      rw [pointer]
      exact List.mem_cons_self
  | address member => exact ⟨operandsOwned _ member, by simp⟩
  | folded result => exact .ofFold closed result
  | silent => exact .silent closed
  | wrong refers =>
      apply Verdict.Owned.rejectedOne closed
      intro type referred
      exact operandsOwned type (refers type referred)
  | mismatch subjectMember otherMember found refers =>
      apply Verdict.Owned.rejected closed
      rw [List.forall_mem_cons, List.forall_mem_singleton]
      constructor
      · exact Ty.obstacle?_owned closed.components
          (operandsOwned _ subjectMember) (operandsOwned _ otherMember) found
      · intro type referred
        exact operandsOwned type (refers type referred)

/-! ## Calls -/

theorem argumentProblems_owned (closed : Ty.Closed owns) (options : Options)
    (arity count : Nat) {params args : List Ty}
    (paramsOwned : ∀ param ∈ params, owns param)
    (argsOwned : ∀ arg ∈ args, owns arg) :
    ∀ problem ∈ argumentProblems options arity count params args,
      problem.Owned owns := by
  induction params generalizing args with
  | nil =>
      cases args <;>
        simp [argumentProblems, Problem.Owned, Problem.types]
  | cons param params inductionHypothesis =>
      cases args with
      | nil =>
          rw [argumentProblems]
          split_ifs <;> simp [Problem.Owned, Problem.types]
      | cons arg args =>
          rw [List.forall_mem_cons] at paramsOwned argsOwned
          rw [argumentProblems]
          split_ifs
          · simp
          · intro problem member
            rcases List.mem_append.mp member with here | later
            · exact Ty.obstacle?_owned closed.components paramsOwned.1
                argsOwned.1 (Option.mem_toList.mp here)
            · exact inductionHypothesis paramsOwned.2 argsOwned.2 problem later

theorem Ty.checkCall_owned (closed : Ty.Closed owns) (options : Options)
    {callee : Ty} {args : List Ty} (calleeOwned : owns callee)
    (argsOwned : ∀ arg ∈ args, owns arg) :
    (callee.checkCall options args).Owned owns := by
  unfold Ty.checkCall
  split
  · exact .silent closed
  · next params results func =>
      have parts : ∀ part ∈ params ++ results, owns part := by
        have components := closed.components callee calleeOwned
        rw [func] at components
        exact components
      rw [List.forall_mem_append] at parts
      constructor
      · cases results with
        | nil => exact closed.void
        | cons result results => exact parts.2 result List.mem_cons_self
      · exact argumentProblems_owned closed options _ _ parts.1 argsOwned
  · exact .rejectedOne closed (.one rfl calleeOwned)

end TypeRules
