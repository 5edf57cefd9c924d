import TypeRules.Proofs.CallOutcome
import TypeRules.Proofs.DiagnosticOrder

/-!
# Unknown types suppress problems

The type of an expression that was already found to be wrong is unknown, and no
further problem is to come of it.  Here parts of a source get lost: elements of
its lists, at any depth, become unknown, and the lists that hold them are made
anew.  What was assignable before has to be assignable afterwards.

A new list is no longer the same type as any other.  Where a list was accepted
because the destination is that very list, the new one is accepted element by
element instead.  This is where it matters that ids tell types apart, as they do
in every arena.

A call is no different: it complains of no argument that it did not complain of
before, and neither its result nor what it says about the number of arguments
depends on what gets lost.
-/

namespace TypeRules

/-! ## Types with parts lost -/

/--
The second type is what is left of the first: all of it, nothing, or a list of
what is left of its elements.
-/
inductive Ty.Leaves : Ty → Ty → Prop where
  | whole (type : Ty) : Leaves type type
  | nothing {type rest : Ty} (unknown : rest.kind = .unknown) :
      Leaves type rest
  | elements {type rest : Ty} {types rests : List Ty}
      (list : type.kind = .list types) (restList : rest.kind = .list rests)
      (lengths : types.length = rests.length)
      (pairs : ∀ pair ∈ types.zip rests, Leaves pair.1 pair.2) :
      Leaves type rest

/-- A list between two others joins their pairs. -/
theorem exists_between_of_mem_zip {left middle right : List Ty}
    (leftLength : left.length = middle.length)
    (rightLength : middle.length = right.length) {pair : Ty × Ty}
    (member : pair ∈ left.zip right) :
    ∃ between, (pair.1, between) ∈ left.zip middle ∧
      (between, pair.2) ∈ middle.zip right := by
  induction left generalizing middle right with
  | nil => cases member
  | cons first left inductionHypothesis =>
      cases middle with
      | nil => cases leftLength
      | cons second middle =>
          cases right with
          | nil => cases rightLength
          | cons third right =>
              rcases List.mem_cons.mp member with rfl | later
              · exact ⟨second, List.mem_cons_self, List.mem_cons_self⟩
              · rcases inductionHypothesis (Nat.succ.inj leftLength)
                  (Nat.succ.inj rightLength) later with
                  ⟨between, before, after⟩
                exact ⟨between, List.mem_cons_of_mem _ before,
                  List.mem_cons_of_mem _ after⟩

section Identified

variable {family : Ty → Prop} (identified : Ty.Identified family)
  {options : Options}

include identified

/-- What is left of an assignable source is assignable. -/
theorem Assignable.leave {dest source rest : Ty}
    (destOccurs : Ty.OccursIn family dest)
    (sourceOccurs : Ty.OccursIn family source)
    (assignable : Assignable options dest source)
    (leaves : source.Leaves rest) : Assignable options dest rest := by
  induction leaves generalizing dest with
  | whole => exact assignable
  | nothing unknown => exact .ofUnknown unknown
  | @elements source rest sources rests list restList lengths _
      inductionHypothesis =>
      have occurs {part : Ty} (member : part ∈ sources) :
          Ty.OccursIn family part :=
        sourceOccurs.component (by rwa [list])
      have stored {element : Ty} (elementOccurs : Ty.OccursIn family element)
          (each : ∀ part ∈ sources, Assignable options element part) :
          ∀ part ∈ rests, Assignable options element part := by
        intro part member
        rw [← List.map_snd_zip (Nat.le_of_eq lengths.symm), List.mem_map]
          at member
        rcases member with ⟨pair, paired, rfl⟩
        have original := (List.of_mem_zip paired).1
        exact inductionHypothesis pair paired elementOccurs (occurs original)
          (each pair.1 original)
      cases assignable with
      | same ids =>
          -- The list loses its id here, but it has the elements of the
          -- destination.
          cases identified dest source destOccurs sourceOccurs ids
          refine .listToList list restList lengths ?_
          intro pair member
          have part := occurs (List.of_mem_zip member).1
          exact inductionHypothesis pair member part part (.same rfl)
      | toUnknown unknown => exact .toUnknown unknown
      | toAny any => exact .toAny any
      | ofUnknown unknown =>
          rw [list] at unknown
          cases unknown
      | nilPointer _ _ nil _ =>
          rw [list] at nil
          cases nil
      | constantToFloat _ untyped | constantToInteger untyped _ _ =>
          rw [list] at untyped
          cases untyped
      | listToArray array sourceList each =>
          cases list.symm.trans sourceList
          refine .listToArray array restList ?_
          exact stored (destOccurs.component (by simp [array, Kind.components]))
            each
      | listToSlice slice sourceList each =>
          cases list.symm.trans sourceList
          refine .listToSlice slice restList ?_
          exact stored (destOccurs.component (by simp [slice, Kind.components]))
            each
      | listToList destList sourceList destLengths pairs =>
          cases list.symm.trans sourceList
          refine .listToList destList restList (destLengths.trans lengths) ?_
          intro pair member
          rcases exists_between_of_mem_zip destLengths lengths member with
            ⟨between, before, after⟩
          exact inductionHypothesis (between, pair.2) after
            (destOccurs.component (by
              rw [destList]
              exact (List.of_mem_zip before).1))
            (occurs (List.of_mem_zip before).2)
            (pairs (pair.1, between) before)

theorem Ty.obstacle?_leave {dest source rest : Ty}
    (destOccurs : Ty.OccursIn family dest)
    (sourceOccurs : Ty.OccursIn family source) (leaves : source.Leaves rest)
    (free : dest.obstacle? options source = none) :
    dest.obstacle? options rest = none := by
  rw [Ty.obstacle?_eq_none_iff] at free ⊢
  exact free.leave identified destOccurs sourceOccurs leaves

/-- What is left of the sources of pairs has no more obstacles. -/
theorem length_obstacles_le {dests sources rests : List Ty}
    (destsOccur : ∀ dest ∈ dests, Ty.OccursIn family dest)
    (sourcesOccur : ∀ source ∈ sources, Ty.OccursIn family source)
    (leave : List.Forall₂ Ty.Leaves sources rests) :
    ((dests.zip rests).filterMap
        fun pair => pair.1.obstacle? options pair.2).length ≤
      ((dests.zip sources).filterMap
        fun pair => pair.1.obstacle? options pair.2).length := by
  induction leave generalizing dests with
  | nil => simp
  | @cons source rest sources rests leaves _ inductionHypothesis =>
      cases dests with
      | nil => simp
      | cons dest dests =>
          rw [List.forall_mem_cons] at destsOccur sourcesOccur
          have later := inductionHypothesis destsOccur.2 sourcesOccur.2
          simp only [List.zip_cons_cons, List.filterMap_cons]
          cases found : dest.obstacle? options source with
          | none =>
              rw [Ty.obstacle?_leave identified destsOccur.1 sourcesOccur.1
                leaves found]
              exact later
          | some problem =>
              cases dest.obstacle? options rest with
              | none => exact Nat.le_succ_of_le later
              | some other => exact Nat.succ_le_succ later

end Identified

/-! ## What a call says about the number of arguments -/

/-- Whether a problem is that there are too many or too few arguments. -/
def Problem.isAboutCount {τ : Type} : Problem τ → Bool
  | tooManyArguments _ _ | tooFewArguments _ _ => true
  | _ => false

theorem Ty.isAboutCount_of_obstacle? {options : Options} {dest source : Ty}
    {problem : Problem Ty}
    (found : dest.obstacle? options source = some problem) :
    problem.isAboutCount = false := by
  rcases exists_firstClash found with ⟨_, _, _, mismatch⟩
  cases mismatch <;> rfl

theorem countProblems_congr {args rests : List Ty}
    (lengths : args.length = rests.length) (arity : Nat) (params : List Ty) :
    countProblems arity args.length params args =
      countProblems arity rests.length params rests := by
  rw [countProblems, countProblems, lengths]

theorem isAboutCount_of_mem_countProblems {arity count : Nat}
    {params args : List Ty} {problem : Problem Ty}
    (member : problem ∈ countProblems arity count params args) :
    problem.isAboutCount = true := by
  unfold countProblems at member
  split_ifs at member with few many
  · cases List.mem_singleton.mp member
    rfl
  · cases List.mem_singleton.mp member
    rfl
  · cases member

namespace Checker

theorem length_diagnosticsOf (checker : Checker) (span : Span)
    (problems : List (Problem Ty)) :
    (checker.diagnosticsOf span problems).length = problems.length := by
  induction problems generalizing checker with
  | nil => rfl
  | cons problem problems inductionHypothesis =>
      exact congrArg Nat.succ (inductionHypothesis _)

theorem diagnosticsOf_append (checker : Checker) (span : Span)
    (before after : List (Problem Ty)) :
    checker.diagnosticsOf span (before ++ after) =
      checker.diagnosticsOf span before ++
        (checker.reportAll span before).diagnosticsOf span after := by
  induction before generalizing checker with
  | nil => rfl
  | cons problem before inductionHypothesis =>
      exact congrArg (checker.diagnosticOf span problem :: ·)
        (inductionHypothesis _)

/-- A diagnostic is about the number of arguments if its problem is. -/
theorem isAboutCount_of_mem_diagnosticsOf {checker : Checker} {span : Span}
    {problems : List (Problem Ty)} {answer : Bool}
    (all : ∀ problem ∈ problems, problem.isAboutCount = answer)
    {diagnostic : Diagnostic}
    (member : diagnostic ∈ checker.diagnosticsOf span problems) :
    diagnostic.problem.isAboutCount = answer := by
  induction problems generalizing checker with
  | nil => cases member
  | cons problem problems inductionHypothesis =>
      rw [List.forall_mem_cons] at all
      rcases List.mem_cons.mp member with rfl | later
      · rw [← all.1]
        cases problem <;> rfl
      · exact inductionHypothesis all.2 later

/-- The number of arguments is reported alike by all checkers. -/
theorem diagnosticsOf_countProblems (first second : Checker) (span : Span)
    (arity count : Nat) (params args : List Ty) :
    first.diagnosticsOf span (countProblems arity count params args) =
      second.diagnosticsOf span (countProblems arity count params args) := by
  rw [countProblems]
  split_ifs <;> rfl

/-- The diagnostics that a call of a function with these parameters adds. -/
def callDiagnostics (checker : Checker) (span : Span)
    (params args : List Ty) : List Diagnostic :=
  checker.diagnosticsOf span
    (argumentProblems checker.options params.length args.length params args)

theorem call_diagnostics_eq (checker : Checker) (span : Span) {callee : Ty}
    {params results : List Ty} (func : callee.kind = .func params results)
    (args : List Ty) :
    (checker.call span callee args).2.diagnostics =
      checker.diagnostics ++ checker.callDiagnostics span params args := by
  rw [call, conclude_diagnostics_eq, Ty.checkCall, func]
  rfl

theorem length_callDiagnostics (checker : Checker) (span : Span)
    (params args : List Ty) :
    (checker.callDiagnostics span params args).length =
      ((passedPairs params args).filterMap
        fun pair => pair.1.obstacle? checker.options pair.2).length +
      (countProblems params.length args.length params args).length := by
  rw [callDiagnostics, length_diagnosticsOf, argumentProblems_eq_append,
    List.length_append]

/-- What a call says about the number of arguments comes after all else. -/
theorem filter_callDiagnostics (checker : Checker) (span : Span)
    (params args : List Ty) :
    (checker.callDiagnostics span params args).filter
        (·.problem.isAboutCount) =
      checker.diagnosticsOf span
        (countProblems params.length args.length params args) := by
  have others :
      ∀ problem ∈ (passedPairs params args).filterMap
          fun pair => pair.1.obstacle? checker.options pair.2,
        problem.isAboutCount = false := by
    intro problem member
    rcases List.mem_filterMap.mp member with ⟨pair, _, found⟩
    exact Ty.isAboutCount_of_obstacle? found
  rw [callDiagnostics, argumentProblems_eq_append, diagnosticsOf_append,
    List.filter_append, List.filter_eq_nil_iff.mpr, List.filter_eq_self.mpr,
    List.nil_append]
  · exact diagnosticsOf_countProblems _ _ span _ _ params args
  · intro diagnostic member
    exact isAboutCount_of_mem_diagnosticsOf
      (fun problem => isAboutCount_of_mem_countProblems) member
  · intro diagnostic member
    rw [isAboutCount_of_mem_diagnosticsOf others member]
    exact Bool.false_ne_true

/--
Let parts of sources get lost, among types that their ids tell apart, as in
every arena.  What was assignable before is assignable afterwards, without a
diagnostic, to every checker with the same options.  A call has the same type as
before, adds no more diagnostics than before, and says the same about the number
of its arguments.
-/
theorem lost_parts_suppress :
    (∀ checker : Checker, checker.Reachable →
        Ty.Identified (· ∈ checker.arena.types)) ∧
      ∀ family : Ty → Prop, Ty.Identified family →
        ∀ (first second : Checker) (span : Span),
          second.options = first.options →
          (∀ dest source rest : Ty, family dest → family source →
            source.Leaves rest → (first.assign span dest source).1 = true →
            second.assign span dest rest = (true, second)) ∧
          ∀ (callee : Ty) (params results args rests : List Ty),
            callee.kind = .func params results →
            (∀ type ∈ params ++ args, family type) →
            List.Forall₂ Ty.Leaves args rests →
            let before := first.call span callee args
            let after := second.call span callee rests
            after.1 = before.1 ∧
              ∃ added fewer : List Diagnostic,
                before.2.diagnostics = first.diagnostics ++ added ∧
                  after.2.diagnostics = second.diagnostics ++ fewer ∧
                  fewer.length ≤ added.length ∧
                  fewer.filter (·.problem.isAboutCount) =
                    added.filter (·.problem.isAboutCount) := by
  refine ⟨fun checker reachable => reachable.wellFormed.identified, ?_⟩
  intro family identified first second span sameOptions
  constructor
  · intro dest source rest destOwned sourceOwned leaves accepted
    rw [assign_eq_true_iff] at accepted
    rw [assign, sameOptions, Ty.obstacle?_leave identified
      (.member destOwned) (.member sourceOwned) leaves accepted]
  · intro callee params results args rests func owned leave before after
    rw [List.forall_mem_append] at owned
    have counts :=
      countProblems_congr leave.length_eq params.length params
    refine ⟨?_, _, _, first.call_diagnostics_eq span func args,
      second.call_diagnostics_eq span func rests, ?_, ?_⟩
    · have result (checker : Checker) (args : List Ty) :
          (checker.call span callee args).1 = results.head?.getD Ty.void := by
        apply conclude_type
        rw [Ty.checkCall, func]
        rfl
      exact (result second rests).trans (result first args).symm
    · rw [length_callDiagnostics, length_callDiagnostics, sameOptions, counts]
      refine Nat.add_le_add_right ?_ _
      refine length_obstacles_le identified ?_ ?_ leave
      · intro param member
        exact .member (owned.1 param (List.mem_of_mem_take member))
      · intro arg member
        exact .member (owned.2 arg member)
    · rw [filter_callDiagnostics, filter_callDiagnostics, counts]
      exact diagnosticsOf_countProblems second first span _ _ params rests

/-
Ids have to tell types apart: a list that is taken for a truth value is so no
longer once it is made anew.
-/
example :
    let flag : Ty := ⟨6, none, .bool⟩
    let list : Ty := ⟨6, none, .list [Ty.string]⟩
    let rest : Ty := ⟨7, none, .list [Ty.unknown]⟩
    flag.accepts .standard list = true ∧
      flag.accepts .standard rest = false := by
  decide

/-- A text and a flag. -/
def entry : Ty :=
  ⟨6, none, .list [Ty.string, Ty.bool]⟩

/-- A flag and an entry. -/
def flaggedEntry : Ty :=
  ⟨7, none, .list [Ty.bool, entry]⟩

/-- Functions of a flagged entry and a text. -/
def entering : Ty :=
  ⟨8, none, .func [flaggedEntry, Ty.string] [Ty.bool]⟩

/-- A run that makes flagged entries and functions of them. -/
def entriesRun : Checker :=
  let once := ((initial .standard).serve
    (.construct (.list [Ty.string, Ty.bool]))).2
  let twice := (once.serve (.construct (.list [Ty.bool, entry]))).2
  (twice.serve
    (.construct (.func [flaggedEntry, Ty.string] [Ty.bool]))).2

/-- A flagged entry whose text is lost. -/
def damagedEntry : Ty :=
  ⟨10, none, .list [Ty.bool, ⟨9, none, .list [Ty.unknown, Ty.bool]⟩]⟩

theorem entriesRun_reachable : entriesRun.Reachable := by
  refine .serve _ (.serve _ (.serve _ (.initial .standard) ?_) ?_) ?_
  · exact List.forall_mem_cons.mpr ⟨Array.mem_of_getElem? (i := 5) rfl,
      List.forall_mem_singleton.mpr (Array.mem_of_getElem? (i := 4) rfl)⟩
  · exact List.forall_mem_cons.mpr ⟨Array.mem_of_getElem? (i := 4) rfl,
      List.forall_mem_singleton.mpr (Array.mem_of_getElem? (i := 6) rfl)⟩
  · exact List.forall_mem_cons.mpr ⟨Array.mem_of_getElem? (i := 7) rfl,
      List.forall_mem_cons.mpr ⟨Array.mem_of_getElem? (i := 5) rfl,
        List.forall_mem_singleton.mpr (Array.mem_of_getElem? (i := 4) rfl)⟩⟩

theorem leaves_damagedEntry : flaggedEntry.Leaves damagedEntry := by
  have text : entry.Leaves ⟨9, none, .list [Ty.unknown, Ty.bool]⟩ := by
    refine .elements rfl rfl rfl ?_
    exact List.forall_mem_cons.mpr ⟨.nothing rfl,
      List.forall_mem_singleton.mpr (.whole Ty.bool)⟩
  refine .elements rfl rfl rfl ?_
  exact List.forall_mem_cons.mpr ⟨.whole Ty.bool,
    List.forall_mem_singleton.mpr text⟩

/-- An entry loses its text, and a call an argument that was wrong. -/
theorem lost_parts_suppress_entries :
    let before :=
      entriesRun.call .unplaced entering [flaggedEntry, Ty.bool, Ty.bool]
    let after :=
      entriesRun.call .unplaced entering [damagedEntry, Ty.unknown, Ty.bool]
    entriesRun.Reachable ∧ flaggedEntry.Leaves damagedEntry ∧
      entriesRun.assign .unplaced flaggedEntry damagedEntry =
        (true, entriesRun) ∧
      after.1 = before.1 ∧
      before.2.diagnostics.length = 2 ∧ after.2.diagnostics.length = 1 ∧
      after.2.diagnostics.filter (·.problem.isAboutCount) =
        before.2.diagnostics.filter (·.problem.isAboutCount) := by
  intro before after
  have bool : Ty.bool ∈ entriesRun.arena.types :=
    Array.mem_of_getElem? (i := 4) rfl
  have string : Ty.string ∈ entriesRun.arena.types :=
    Array.mem_of_getElem? (i := 5) rfl
  have flagged : flaggedEntry ∈ entriesRun.arena.types :=
    Array.mem_of_getElem? (i := 7) rfl
  have suppressed := lost_parts_suppress.2 _
    (lost_parts_suppress.1 entriesRun entriesRun_reachable)
    entriesRun entriesRun .unplaced rfl
  rcases suppressed.2 entering [flaggedEntry, Ty.string] [Ty.bool]
      [flaggedEntry, Ty.bool, Ty.bool] [damagedEntry, Ty.unknown, Ty.bool] rfl
      (by simp [bool, string, flagged])
      (.cons leaves_damagedEntry (.cons (.nothing rfl)
        (.cons (.whole Ty.bool) .nil))) with
    ⟨result, added, fewer, addedBefore, addedAfter, -, counts⟩
  -- Nothing is reported before the calls.
  have beforeAdded : before.2.diagnostics = added := addedBefore
  have afterAdded : after.2.diagnostics = fewer := addedAfter
  refine ⟨entriesRun_reachable, leaves_damagedEntry, ?_, result, rfl, rfl, ?_⟩
  · exact suppressed.1 flaggedEntry flaggedEntry damagedEntry flagged flagged
      leaves_damagedEntry rfl
  · rw [beforeAdded, afterAdded, counts]

end Checker

end TypeRules
