import Mathlib.Data.List.Forall2
import TypeRules.Proofs.HashConsing

/-!
# Identity is a congruence

Two types are identical if they have one id, or one name, or no name and kinds
that are built alike from identical components.  These are three different
notions, and identity would not be transitive if an id could stand for two
types.  Where it cannot, identity is an equivalence, and what is constructed
from identical types is identical.

A family of types is given by a property.  The types *of* a family are those
with the property and all their components, since identity looks at those too.
-/

namespace TypeRules

/-! ## Alike kinds -/

/-- Fields of one name whose types are related. -/
def Field.Alike (related : Ty → Ty → Prop) (left right : Field Ty) : Prop :=
  left.name = right.name ∧ related left.type right.type

/-- Kinds that are built in one way from related components. -/
inductive Kind.Alike (related : Ty → Ty → Prop) :
    Kind Ty → Kind Ty → Prop where
  | bool : Alike related .bool .bool
  | string : Alike related .string .string
  | int (width : Nat) : Alike related (.int width) (.int width)
  | uint (width : Nat) : Alike related (.uint width) (.uint width)
  | float (width : Nat) : Alike related (.float width) (.float width)
  | pointer {left right : Ty} (base : related left right) :
      Alike related (.pointer left) (.pointer right)
  | array (length : Nat) {left right : Ty} (element : related left right) :
      Alike related (.array length left) (.array length right)
  | slice {left right : Ty} (element : related left right) :
      Alike related (.slice left) (.slice right)
  | struct {left right : List (Field Ty)}
      (fields : List.Forall₂ (Field.Alike related) left right) :
      Alike related (.struct left) (.struct right)
  | func {leftParams rightParams leftResults rightResults : List Ty}
      (params : List.Forall₂ related leftParams rightParams)
      (results : List.Forall₂ related leftResults rightResults) :
      Alike related (.func leftParams leftResults)
        (.func rightParams rightResults)
  | list {left right : List Ty} (types : List.Forall₂ related left right) :
      Alike related (.list left) (.list right)

section Lists

variable {α : Type} {related : α → α → Prop}

theorem forall₂_symm_of_mem {left right : List α}
    (symmetric : ∀ first ∈ left, ∀ second, related first second →
      related second first)
    (all : List.Forall₂ related left right) :
    List.Forall₂ related right left := by
  induction all with
  | nil => exact .nil
  | cons head _ inductionHypothesis =>
      rw [List.forall_mem_cons] at symmetric
      exact .cons (symmetric.1 _ head) (inductionHypothesis symmetric.2)

theorem forall₂_trans_of_mem {left middle right : List α}
    (transitive :
      ∀ first ∈ left, ∀ second ∈ middle, ∀ third ∈ right,
        related first second → related second third → related first third)
    (leftAll : List.Forall₂ related left middle)
    (rightAll : List.Forall₂ related middle right) :
    List.Forall₂ related left right := by
  induction leftAll generalizing right with
  | nil =>
      cases rightAll
      exact .nil
  | cons leftHead _ inductionHypothesis =>
      cases rightAll with
      | cons rightHead rightTail =>
          refine .cons ?_ (inductionHypothesis ?_ rightTail)
          · exact transitive _ List.mem_cons_self _ List.mem_cons_self _
              List.mem_cons_self leftHead rightHead
          · intro first firstMember second secondMember third thirdMember
            exact transitive first (List.mem_cons_of_mem _ firstMember)
              second (List.mem_cons_of_mem _ secondMember)
              third (List.mem_cons_of_mem _ thirdMember)

end Lists

namespace Kind.Alike

variable {related : Ty → Ty → Prop}

theorem symm {left right : Kind Ty} (alike : Alike related left right)
    (symmetric : ∀ component ∈ left.components, ∀ other,
      related component other → related other component) :
    Alike related right left := by
  cases alike with
  | bool => exact .bool
  | string => exact .string
  | int width => exact .int width
  | uint width => exact .uint width
  | float width => exact .float width
  | pointer base => exact .pointer (symmetric _ List.mem_cons_self _ base)
  | array length element =>
      exact .array length (symmetric _ List.mem_cons_self _ element)
  | slice element => exact .slice (symmetric _ List.mem_cons_self _ element)
  | struct fields =>
      refine .struct (forall₂_symm_of_mem ?_ fields)
      intro field member other both
      exact ⟨both.1.symm,
        symmetric _ (List.mem_map_of_mem member) _ both.2⟩
  | func params results =>
      refine .func (forall₂_symm_of_mem ?_ params)
        (forall₂_symm_of_mem ?_ results)
      · intro param member
        exact symmetric param (List.mem_append_left _ member)
      · intro result member
        exact symmetric result (List.mem_append_right _ member)
  | list types => exact .list (forall₂_symm_of_mem symmetric types)

theorem trans {left middle right : Kind Ty}
    (first : Alike related left middle) (second : Alike related middle right)
    (transitive :
      ∀ one ∈ left.components, ∀ two ∈ middle.components,
        ∀ three ∈ right.components,
          related one two → related two three → related one three) :
    Alike related left right := by
  cases first with
  | bool | string | int | uint | float => exact second
  | pointer base =>
      cases second with
      | pointer otherBase =>
          exact .pointer (transitive _ List.mem_cons_self _
            List.mem_cons_self _ List.mem_cons_self base otherBase)
  | array length element =>
      cases second with
      | array _ otherElement =>
          exact .array length (transitive _ List.mem_cons_self _
            List.mem_cons_self _ List.mem_cons_self element otherElement)
  | slice element =>
      cases second with
      | slice otherElement =>
          exact .slice (transitive _ List.mem_cons_self _
            List.mem_cons_self _ List.mem_cons_self element otherElement)
  | struct fields =>
      cases second with
      | struct otherFields =>
          refine .struct (forall₂_trans_of_mem ?_ fields otherFields)
          intro one oneMember two twoMember three threeMember left right
          exact ⟨left.1.trans right.1,
            transitive _ (List.mem_map_of_mem oneMember)
              _ (List.mem_map_of_mem twoMember)
              _ (List.mem_map_of_mem threeMember) left.2 right.2⟩
  | func params results =>
      cases second with
      | func otherParams otherResults =>
          refine .func (forall₂_trans_of_mem ?_ params otherParams)
            (forall₂_trans_of_mem ?_ results otherResults)
          · intro one oneMember two twoMember three threeMember
            exact transitive one (List.mem_append_left _ oneMember)
              two (List.mem_append_left _ twoMember)
              three (List.mem_append_left _ threeMember)
          · intro one oneMember two twoMember three threeMember
            exact transitive one (List.mem_append_right _ oneMember)
              two (List.mem_append_right _ twoMember)
              three (List.mem_append_right _ threeMember)
  | list types =>
      cases second with
      | list otherTypes =>
          exact .list (forall₂_trans_of_mem transitive types otherTypes)

end Kind.Alike

/-! ## What identity compares -/

/-- Identity as a relation. -/
abbrev Ty.Identical (left right : Ty) : Prop :=
  left.identical right = true

theorem allIdentical_iff {left right : List Ty} :
    allIdentical left right = true ↔
      List.Forall₂ Ty.Identical left right := by
  induction left generalizing right with
  | nil => cases right <;> simp [allIdentical]
  | cons first left inductionHypothesis =>
      cases right with
      | nil => simp [allIdentical]
      | cons second right =>
          rw [allIdentical, Bool.and_eq_true, inductionHypothesis,
            List.forall₂_cons]

theorem Field.identical_iff {left right : Field Ty} :
    left.identical right = true ↔ left.Alike Ty.Identical right := by
  cases left
  simp [Field.identical, Field.Alike]

theorem allFieldsIdentical_iff {left right : List (Field Ty)} :
    allFieldsIdentical left right = true ↔
      List.Forall₂ (Field.Alike Ty.Identical) left right := by
  induction left generalizing right with
  | nil => cases right <;> simp [allFieldsIdentical]
  | cons first left inductionHypothesis =>
      cases right with
      | nil => simp [allFieldsIdentical]
      | cons second right =>
          rw [allFieldsIdentical, Bool.and_eq_true, inductionHypothesis,
            Field.identical_iff, List.forall₂_cons]

theorem Kind.identical_iff {left right : Kind Ty} :
    left.identical right = true ↔ Kind.Alike Ty.Identical left right := by
  constructor
  · intro identical
    unfold Kind.identical at identical
    split at identical
    · exact .bool
    · exact .string
    · cases beq_iff_eq.mp identical
      exact .int _
    · cases beq_iff_eq.mp identical
      exact .uint _
    · cases beq_iff_eq.mp identical
      exact .float _
    · exact .pointer identical
    · rw [Bool.and_eq_true, beq_iff_eq] at identical
      rcases identical with ⟨rfl, element⟩
      exact .array _ element
    · exact .slice identical
    · exact .struct (allFieldsIdentical_iff.mp identical)
    · rw [Bool.and_eq_true, allIdentical_iff, allIdentical_iff] at identical
      exact .func identical.1 identical.2
    · exact .list (allIdentical_iff.mp identical)
    · cases identical
  · intro alike
    cases alike with
    | bool | string => rfl
    | int | uint | float => exact beq_self_eq_true _
    | pointer base => exact base
    | array length element => simpa [Kind.identical] using element
    | slice element => exact element
    | struct fields => exact allFieldsIdentical_iff.mpr fields
    | func params results =>
        simpa [Kind.identical, allIdentical_iff] using ⟨params, results⟩
    | list types => exact allIdentical_iff.mpr types

/-- One id, one name, or no name and kinds that are alike. -/
theorem Ty.identical_iff {left right : Ty} :
    left.Identical right ↔
      left.id = right.id ∨
        (∃ name, left.name = some name ∧ right.name = some name) ∨
        left.name = none ∧ right.name = none ∧
          Kind.Alike Ty.Identical left.kind right.kind := by
  change left.identical right = true ↔ _
  rcases left with ⟨leftId, _ | leftName, leftKind⟩ <;>
    rcases right with ⟨rightId, _ | rightName, rightKind⟩
  · simp [Ty.identical, Kind.identical_iff]
  · simp [Ty.identical]
  · simp [Ty.identical]
  · simp [Ty.identical, @eq_comm _ rightName leftName]

/-! ## Identity is an equivalence -/

namespace Ty

/-- The types of a family, components included. -/
inductive OccursIn (family : Ty → Prop) : Ty → Prop where
  | member {type : Ty} (own : family type) : OccursIn family type
  | component {type component : Ty} (occurs : OccursIn family type)
      (part : component ∈ type.kind.components) : OccursIn family component

/-- Among the types of a family equal ids mean equal types. -/
def Identified (family : Ty → Prop) : Prop :=
  ∀ left right, OccursIn family left → OccursIn family right →
    left.id = right.id → left = right

/-
Components have to be counted in: these three pointers have different ids, and
identity is not transitive on them, since two of their bases share an id.
-/
example :
    let first : Ty := ⟨8, none, .pointer ⟨6, none, .bool⟩⟩
    let second : Ty := ⟨9, none, .pointer ⟨6, none, .string⟩⟩
    let third : Ty := ⟨10, none, .pointer ⟨7, none, .string⟩⟩
    first.identical second = true ∧ second.identical third = true ∧
      first.identical third = false := by
  decide

namespace Identical

theorem refl (type : Ty) : type.Identical type :=
  identical_of_id_eq rfl

theorem symm {left right : Ty} (identical : left.Identical right) :
    right.Identical left := by
  induction left using Ty.induction_on_components generalizing right with
  | step left inductionHypothesis =>
      rw [identical_iff] at identical ⊢
      rcases identical with
        ids | ⟨name, leftName, rightName⟩ | ⟨leftName, rightName, alike⟩
      · exact Or.inl ids.symm
      · exact Or.inr (Or.inl ⟨name, rightName, leftName⟩)
      · refine Or.inr (Or.inr ⟨rightName, leftName, alike.symm ?_⟩)
        intro component member other
        exact inductionHypothesis component member

theorem trans {family : Ty → Prop} (identified : Identified family)
    {left middle right : Ty} (leftOccurs : OccursIn family left)
    (middleOccurs : OccursIn family middle)
    (rightOccurs : OccursIn family right)
    (first : left.Identical middle) (second : middle.Identical right) :
    left.Identical right := by
  induction left using Ty.induction_on_components generalizing
    middle right with
  | step left inductionHypothesis =>
      -- An id in common means that two of the three types are one, so only
      -- names against names and kinds against kinds are left.
      by_cases firstIds : left.id = middle.id
      · cases identified left middle leftOccurs middleOccurs firstIds
        exact second
      by_cases secondIds : middle.id = right.id
      · cases identified middle right middleOccurs rightOccurs secondIds
        exact first
      rw [identical_iff] at first second ⊢
      rcases first.resolve_left firstIds with
        ⟨name, leftName, middleName⟩ | ⟨leftName, middleName, leftAlike⟩
      · rcases second.resolve_left secondIds with
          ⟨otherName, middleOther, rightName⟩ | ⟨unnamed, -, -⟩
        · have names : otherName = name :=
            Option.some.inj (middleOther.symm.trans middleName)
          subst names
          exact Or.inr (Or.inl ⟨otherName, leftName, rightName⟩)
        · rw [middleName] at unnamed
          cases unnamed
      · rcases second.resolve_left secondIds with
          ⟨name, named, -⟩ | ⟨-, rightName, rightAlike⟩
        · rw [middleName] at named
          cases named
        · refine Or.inr (Or.inr
            ⟨leftName, rightName, leftAlike.trans rightAlike ?_⟩)
          intro one oneMember two twoMember three threeMember
          exact inductionHypothesis one oneMember
            (leftOccurs.component oneMember)
            (middleOccurs.component twoMember)
            (rightOccurs.component threeMember)

theorem equivalence {family : Ty → Prop} (identified : Identified family) :
    Equivalence fun left right : {type : Ty // family type} =>
      left.1.identical right.1 = true where
  refl type := refl type.1
  symm identical := symm identical
  trans {left middle right} first second :=
    trans identified (.member left.2) (.member middle.2) (.member right.2)
      first second

end Identical

end Ty

/-- The types of a well-formed arena are such a family. -/
theorem Arena.WellFormed.identified {arena : Arena}
    (wellFormed : arena.WellFormed) :
    Ty.Identified (· ∈ arena.types) := by
  have closed {type : Ty}
      (occurs : Ty.OccursIn (· ∈ arena.types) type) : type ∈ arena.types := by
    induction occurs with
    | member own => exact own
    | component _ part inductionHypothesis =>
        exact (wellFormed.fits _ inductionHypothesis).components _ part
  intro left right leftOccurs rightOccurs ids
  have distinct : (arena.types.toList.map Ty.id).Nodup := by
    rw [wellFormed.ids]
    exact List.nodup_range
  exact List.inj_on_of_nodup_map distinct
    (Array.mem_toList_iff.mpr (closed leftOccurs))
    (Array.mem_toList_iff.mpr (closed rightOccurs)) ids

/-! ## The table of shared types, whatever is asked for -/

/-- The table of shared types holds unnamed types that its keys stand for. -/
def Arena.Spelled (arena : Arena) : Prop :=
  ∀ key type, arena.interned.get? key = some type →
    type.name = none ∧ key.Spells type.kind

/--
The checkers that requests lead to, be it types of the arena that they refer to
or any others.
-/
inductive Checker.Attainable : Checker → Prop where
  | initial (options : Options) : Attainable (.initial options)
  | serve {checker : Checker} (request : Request)
      (attainable : Attainable checker) :
      Attainable (checker.serve request).2

theorem Checker.Reachable.attainable {checker : Checker}
    (reachable : checker.Reachable) : checker.Attainable := by
  induction reachable with
  | initial options => exact .initial options
  | serve request _ _ inductionHypothesis =>
      exact .serve request inductionHypothesis

namespace Arena.Spelled

theorem initial : Arena.initial.Spelled := by
  intro key type found
  cases found

variable {arena : Arena}

theorem unnamed (spelled : arena.Spelled) (kind : Kind Ty) :
    (arena.unnamed kind).2.Spelled := by
  unfold Arena.unnamed
  split
  · exact spelled
  · next key found =>
      split
      · exact spelled
      · intro other type kept
        rw [Table.get?_insert] at kept
        split_ifs at kept with same
        · cases kept
          subst same
          exact ⟨rfl, Kind.internKey?_eq_some_iff.mp found⟩
        · exact spelled other type kept

theorem construct (spelled : arena.Spelled) (construction : Construction) :
    (arena.construct construction).2.Spelled := by
  cases construction with
  | int width =>
      rw [Arena.construct, Arena.int]
      split_ifs
      · exact spelled.unnamed _
      · exact spelled
  | uint width =>
      rw [Arena.construct, Arena.uint]
      split_ifs
      · exact spelled.unnamed _
      · exact spelled
  | float width =>
      rw [Arena.construct, Arena.float]
      split_ifs
      · exact spelled.unnamed _
      · exact spelled
  | struct fields =>
      rw [Arena.construct]
      rcases arena.struct_cases fields with
        ⟨-, made⟩ | ⟨_, _, _, -, -, -, refused⟩
      · rw [made]
        exact spelled
      · rw [refused]
        exact spelled
  | literal text =>
      rw [Arena.construct, Arena.literal]
      split <;> exact spelled
  | floating value =>
      rw [Arena.construct, Arena.floating]
      split <;> exact spelled
  | declare name underlying =>
      rw [Arena.construct, Arena.declare]
      split_ifs <;> exact spelled
  | pointer | slice | array | nil | func | list | integer =>
      exact spelled.unnamed _

theorem predeclared (spelled : arena.Spelled) {name : String}
    {result : Ty × Arena} (found : arena.predeclared? name = some result) :
    result.2.Spelled := by
  rcases Option.map_eq_some_iff.mp found with ⟨kind, -, rfl⟩
  split
  · exact spelled
  · exact spelled
  · exact spelled
  · exact spelled.unnamed _

theorem conclude {checker : Checker} (spelled : checker.arena.Spelled)
    (span : Span) (verdict : Verdict) :
    (checker.conclude span verdict).2.arena.Spelled := by
  have reported (problems : List (Problem Ty)) :
      (checker.reportAll span problems).arena.Spelled := by
    induction problems generalizing checker with
    | nil => exact spelled
    | cons problem problems inductionHypothesis =>
        exact @inductionHypothesis (checker.report span problem) spelled
  rw [Checker.conclude]
  cases verdict.result with
  | type type => exact reported _
  | constant constant =>
      exact (reported verdict.problems).unnamed (.untyped constant)
  | pointerTo base => exact (reported verdict.problems).unnamed (.pointer base)

theorem serve {checker : Checker} (spelled : checker.arena.Spelled)
    (request : Request) : (checker.serve request).2.arena.Spelled := by
  cases request with
  | construct construction => exact spelled.construct construction
  | predeclared name =>
      rw [Checker.serve]
      split
      · next found => exact spelled.predeclared found
      · exact spelled
  | assign span dest source =>
      rw [Checker.serve, Checker.assign]
      split <;> exact spelled
  | binary span op left right => exact spelled.conclude span _
  | unary span op operand => exact spelled.conclude span _
  | call span callee args => exact spelled.conclude span _
  | intern | print | take | renew => exact spelled

end Arena.Spelled

theorem Checker.Attainable.spelled {checker : Checker}
    (attainable : checker.Attainable) : checker.arena.Spelled := by
  induction attainable with
  | initial options => exact Arena.Spelled.initial
  | serve request _ inductionHypothesis =>
      exact inductionHypothesis.serve request

/-! ## Identity is a congruence -/

/-- A key stands for one kind if ids stand for one component each. -/
theorem InternKey.Spells.eq_of_components {key : InternKey}
    {left right : Kind Ty} (leftSpelled : key.Spells left)
    (rightSpelled : key.Spells right)
    (unique :
      ∀ one ∈ left.components, ∀ two ∈ right.components,
        one.id = two.id → one = two) :
    left = right := by
  cases key with
  | int | uint | float => exact leftSpelled.trans rightSpelled.symm
  | pointer id =>
      rcases leftSpelled with ⟨base, rfl, rfl⟩
      rcases rightSpelled with ⟨other, rfl, ids⟩
      cases unique base List.mem_cons_self other List.mem_cons_self ids.symm
      rfl
  | slice id =>
      rcases leftSpelled with ⟨element, rfl, rfl⟩
      rcases rightSpelled with ⟨other, rfl, ids⟩
      cases unique element List.mem_cons_self other List.mem_cons_self
        ids.symm
      rfl
  | array length id =>
      rcases leftSpelled with ⟨element, rfl, rfl⟩
      rcases rightSpelled with ⟨other, rfl, ids⟩
      cases unique element List.mem_cons_self other List.mem_cons_self
        ids.symm
      rfl

/-- The unnamed type of a kind, within a family, has no name and that kind. -/
theorem Arena.Spelled.unnamed_type {arena : Arena} (spelled : arena.Spelled)
    {kind : Kind Ty} {family : Ty → Prop}
    (identified : Ty.Identified family)
    (components : ∀ component ∈ kind.components, family component)
    (member : family (arena.unnamed kind).1) :
    (arena.unnamed kind).1.name = none ∧
      (arena.unnamed kind).1.kind = kind := by
  unfold Arena.unnamed at member ⊢
  split at member
  · exact ⟨rfl, rfl⟩
  · next key key? =>
      split at member
      · next type found =>
          rcases spelled key type found with ⟨unnamed, spells⟩
          refine ⟨unnamed, spells.eq_of_components
            (Kind.internKey?_eq_some_iff.mp key?) ?_⟩
          intro one oneMember two twoMember
          exact identified one two
            (.component (.member member) oneMember)
            (.member (components two twoMember))
      · exact ⟨rfl, rfl⟩

/--
Constructions from components that are identical one by one.  Lengths of arrays
and names of fields agree, and so does the number of fields, parameters, results
or types.  Fields make a structure only if their names differ.
-/
inductive Construction.Congruent : Construction → Construction → Prop where
  | pointer {left right : Ty} (base : left.Identical right) :
      Congruent (.pointer left) (.pointer right)
  | slice {left right : Ty} (element : left.Identical right) :
      Congruent (.slice left) (.slice right)
  | array (length : Nat) {left right : Ty} (element : left.Identical right) :
      Congruent (.array length left) (.array length right)
  | struct {left right : List (String × Ty)}
      (distinct : (left.map Prod.fst).Nodup)
      (fields :
        List.Forall₂
          (fun one two => one.1 = two.1 ∧ one.2.Identical two.2) left right) :
      Congruent (.struct left) (.struct right)
  | func {leftParams rightParams leftResults rightResults : List Ty}
      (params : List.Forall₂ Ty.Identical leftParams rightParams)
      (results : List.Forall₂ Ty.Identical leftResults rightResults) :
      Congruent (.func leftParams leftResults)
        (.func rightParams rightResults)
  | list {left right : List Ty}
      (types : List.Forall₂ Ty.Identical left right) :
      Congruent (.list left) (.list right)

/-- The construction always makes the unnamed type of the kind. -/
structure Construction.Builds (construction : Construction)
    (kind : Kind Ty) : Prop where
  components : kind.components = construction.operands
  made :
    ∀ arena : Arena, ∃ prepared : Arena,
      prepared.interned = arena.interned ∧
        (arena.construct construction).1 = .ok (prepared.unnamed kind).1

namespace Construction

theorem Builds.direct {construction : Construction} {kind : Kind Ty}
    (components : kind.components = construction.operands)
    (made :
      ∀ arena : Arena,
        arena.construct construction = Arena.made (arena.unnamed kind)) :
    construction.Builds kind where
  components := components
  made arena := ⟨arena, rfl, congrArg Prod.fst (made arena)⟩

theorem Builds.struct {fields : List (String × Ty)}
    (distinct : (fields.map Prod.fst).Nodup) :
    (Construction.struct fields).Builds (.struct (fieldsOf fields)) where
  components := by
    simp [Kind.components, fieldsOf, operands, Function.comp_def]
  made arena := by
    refine ⟨{ arena with
      atoms := arena.atoms.internAll (fields.map Prod.fst) }, rfl, ?_⟩
    rw [Arena.construct, Arena.struct_of_nodup distinct]
    rfl

theorem map_fst_eq_of_forall₂ {left right : List (String × Ty)}
    (fields :
      List.Forall₂
        (fun one two => one.1 = two.1 ∧ one.2.Identical two.2) left right) :
    left.map Prod.fst = right.map Prod.fst := by
  induction fields with
  | nil => rfl
  | cons both _ inductionHypothesis =>
      rw [List.map_cons, List.map_cons, both.1, inductionHypothesis]

/-- Congruent constructions build alike kinds. -/
theorem Congruent.builds {left right : Construction}
    (congruent : left.Congruent right) :
    ∃ leftKind rightKind, left.Builds leftKind ∧ right.Builds rightKind ∧
      Kind.Alike Ty.Identical leftKind rightKind := by
  cases congruent with
  | pointer base =>
      exact ⟨_, _, .direct rfl fun _ => rfl, .direct rfl fun _ => rfl,
        .pointer base⟩
  | slice element =>
      exact ⟨_, _, .direct rfl fun _ => rfl, .direct rfl fun _ => rfl,
        .slice element⟩
  | array length element =>
      exact ⟨_, _, .direct rfl fun _ => rfl, .direct rfl fun _ => rfl,
        .array length element⟩
  | struct distinct fields =>
      refine ⟨_, _, .struct distinct, .struct ?_, .struct ?_⟩
      · rw [← map_fst_eq_of_forall₂ fields]
        exact distinct
      · rw [fieldsOf, fieldsOf, List.forall₂_map_left_iff,
          List.forall₂_map_right_iff]
        refine fields.imp ?_
        intro one two both
        exact ⟨congrArg Atom.mk both.1, both.2⟩
  | func params results =>
      exact ⟨_, _, .direct rfl fun _ => rfl, .direct rfl fun _ => rfl,
        .func params results⟩
  | list types =>
      exact ⟨_, _, .direct rfl fun _ => rfl, .direct rfl fun _ => rfl,
        .list types⟩

end Construction

/-- A construction within a family gives an unnamed type of its kind. -/
theorem Construction.Builds.exists_type {construction : Construction}
    {kind : Kind Ty} (builds : construction.Builds kind) {arena : Arena}
    (spelled : arena.Spelled) {family : Ty → Prop}
    (identified : Ty.Identified family)
    (operands : ∀ operand ∈ construction.operands, family operand) :
    ∃ type, (arena.construct construction).1 = .ok type ∧
      (family type → type.name = none ∧ type.kind = kind) := by
  rcases builds.made arena with ⟨prepared, interned, made⟩
  have preparedSpelled : prepared.Spelled := by
    rw [Arena.Spelled, interned]
    exact spelled
  rw [← builds.components] at operands
  exact ⟨_, made, preparedSpelled.unnamed_type identified operands⟩

theorem Construction.Congruent.identical {left right : Construction}
    (congruent : left.Congruent right) {first second : Arena}
    (firstSpelled : first.Spelled) (secondSpelled : second.Spelled)
    {family : Ty → Prop} (identified : Ty.Identified family)
    (operands : ∀ operand ∈ left.operands ++ right.operands, family operand) :
    ∃ leftType rightType,
      (first.construct left).1 = .ok leftType ∧
        (second.construct right).1 = .ok rightType ∧
        (family leftType → family rightType →
          leftType.identical rightType = true) := by
  rcases congruent.builds with
    ⟨leftKind, rightKind, leftBuilds, rightBuilds, alike⟩
  rw [List.forall_mem_append] at operands
  rcases leftBuilds.exists_type firstSpelled identified operands.1 with
    ⟨leftType, leftMade, leftShape⟩
  rcases rightBuilds.exists_type secondSpelled identified operands.2 with
    ⟨rightType, rightMade, rightShape⟩
  refine ⟨leftType, rightType, leftMade, rightMade, ?_⟩
  intro leftMember rightMember
  rcases leftShape leftMember with ⟨leftName, rfl⟩
  rcases rightShape rightMember with ⟨rightName, rfl⟩
  exact Ty.identical_iff.mpr (Or.inr (Or.inr ⟨leftName, rightName, alike⟩))

theorem Arena.WellFormed.spelled {arena : Arena}
    (wellFormed : arena.WellFormed) : arena.Spelled := by
  intro key type found
  exact ((wellFormed.shared key type).mp found).2

/-- In one arena the family takes care of itself. -/
theorem Construction.Congruent.identical_in_arena {left right : Construction}
    (congruent : left.Congruent right) {arena : Arena}
    (wellFormed : arena.WellFormed)
    (operands :
      ∀ operand ∈ left.operands ++ right.operands, operand ∈ arena.types) :
    ∃ leftType rightType,
      (arena.construct left).1 = .ok leftType ∧
        ((arena.construct left).2.construct right).1 = .ok rightType ∧
        leftType.identical rightType = true := by
  have known := List.forall_mem_append.mp operands
  have first := Arena.Yields.construct wellFormed left known.1
  have between := first.moves.wellFormed wellFormed
  have second := Arena.Yields.construct between right
    fun operand listed => first.moves.mem_types (known.2 operand listed)
  have after := second.moves.wellFormed between
  -- The family is the types of the arena after both constructions.
  rcases congruent.identical wellFormed.spelled between.spelled
      after.identified fun operand listed =>
        second.moves.mem_types
          (first.moves.mem_types (operands operand listed)) with
    ⟨leftType, rightType, leftMade, rightMade, identical⟩
  rw [leftMade] at first
  rw [rightMade] at second
  refine ⟨leftType, rightType, leftMade, rightMade, identical ?_ ?_⟩
  · exact second.moves.mem_types
      (first.allocated leftType List.mem_cons_self)
  · exact second.allocated rightType List.mem_cons_self

/--
The types of an arena are a family in which equal ids mean equal types.  On
every such family identity is an equivalence, and a congruence: constructions
from identical components succeed, whenever they are asked for, and as long as
the types that they give belong to the family these are identical.  Within one
arena they always are.
-/
theorem Ty.identical_congruent_equivalence :
    (∀ checker : Checker, checker.Reachable →
        Ty.Identified (· ∈ checker.arena.types) ∧
          ∀ left right : Construction, left.Congruent right →
            (∀ operand ∈ left.operands ++ right.operands,
              operand ∈ checker.arena.types) →
            ∃ leftType rightType,
              (checker.arena.construct left).1 = .ok leftType ∧
                ((checker.arena.construct left).2.construct right).1 =
                  .ok rightType ∧
                leftType.identical rightType = true) ∧
      ∀ family : Ty → Prop, Ty.Identified family →
        (Equivalence fun left right : {type : Ty // family type} =>
          left.1.identical right.1 = true) ∧
        ∀ (first second : Checker) (left right : Construction),
          first.Attainable → second.Attainable → left.Congruent right →
          (∀ operand ∈ left.operands ++ right.operands, family operand) →
          ∃ leftType rightType,
            (first.arena.construct left).1 = .ok leftType ∧
              (second.arena.construct right).1 = .ok rightType ∧
              (family leftType → family rightType →
                leftType.identical rightType = true) := by
  refine ⟨?_, ?_⟩
  · intro checker reachable
    refine ⟨reachable.wellFormed.identified, ?_⟩
    intro left right congruent
    exact congruent.identical_in_arena reachable.wellFormed
  · intro family identified
    refine ⟨Ty.Identical.equivalence identified, ?_⟩
    intro first second left right firstAttained secondAttained congruent
    exact congruent.identical firstAttained.spelled secondAttained.spelled
      identified

/-- A structure with one field. -/
def Ty.point (id : Nat) : Ty :=
  ⟨id, none, .struct [⟨⟨"x"⟩, Ty.bool⟩]⟩

namespace Checker

/-- A run that makes the same structure twice. -/
def pointsRun : Checker :=
  let once := ((initial .standard).serve
    (.construct (.struct [("x", Ty.bool)]))).2
  (once.serve (.construct (.struct [("x", Ty.bool)]))).2

/-- The run goes on to make pointers to the first structure. -/
def firstPointerRun : Checker :=
  (pointsRun.serve (.construct (.pointer (Ty.point 6)))).2

/-- The run goes on to make pointers to the second structure. -/
def bothPointersRun : Checker :=
  (firstPointerRun.serve (.construct (.pointer (Ty.point 7)))).2

theorem bothPointersRun_reachable :
    pointsRun.Reachable ∧ firstPointerRun.Reachable ∧
      bothPointersRun.Reachable := by
  have points : pointsRun.Reachable := by
    refine .serve _ (.serve _ (.initial .standard) ?_) ?_
    · exact List.forall_mem_singleton.mpr (Array.mem_of_getElem? (i := 4) rfl)
    · exact List.forall_mem_singleton.mpr (Array.mem_of_getElem? (i := 4) rfl)
  have first : firstPointerRun.Reachable :=
    .serve _ points
      (List.forall_mem_singleton.mpr (Array.mem_of_getElem? (i := 6) rfl))
  exact ⟨points, first, .serve _ first
    (List.forall_mem_singleton.mpr (Array.mem_of_getElem? (i := 7) rfl))⟩

theorem identical_congruent_equivalence_points :
    (Ty.point 6).identical (Ty.point 7) = true ∧
      ∃ leftType rightType,
        (pointsRun.arena.construct (.pointer (Ty.point 6))).1 =
            .ok leftType ∧
          (firstPointerRun.arena.construct (.pointer (Ty.point 7))).1 =
            .ok rightType ∧
          leftType.id = 8 ∧ rightType.id = 9 ∧
          leftType.identical rightType = true := by
  rcases bothPointersRun_reachable with ⟨points, first, both⟩
  have structures : (Ty.point 6).identical (Ty.point 7) = true := rfl
  have identified := (Ty.identical_congruent_equivalence.1 _ both).1
  have known :
      ∀ operand ∈ [Ty.point 6, Ty.point 7],
        operand ∈ bothPointersRun.arena.types :=
    List.forall_mem_cons.mpr ⟨Array.mem_of_getElem? (i := 6) rfl,
      List.forall_mem_singleton.mpr (Array.mem_of_getElem? (i := 7) rfl)⟩
  rcases (Ty.identical_congruent_equivalence.2 _ identified).2 pointsRun
      firstPointerRun _ _ points.attainable first.attainable
      (.pointer structures) known with
    ⟨leftType, rightType, leftMade, rightMade, identical⟩
  cases leftMade
  cases rightMade
  refine ⟨structures, _, _, rfl, rfl, rfl, rfl, ?_⟩
  exact identical (Array.mem_of_getElem? (i := 8) rfl)
    (Array.mem_of_getElem? (i := 9) rfl)

end Checker

end TypeRules
