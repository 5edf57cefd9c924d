import Mathlib.Data.Set.Function
import TypeRules.Proofs.Identity

/-!
# The same underlying kind

Two types have the same underlying kind if they have one id, or if their kinds
look alike from outside.  That look compares widths and lengths, knows
components by their ids, and takes all structures for alike, as it does all
functions, lists and constants.  What it sees of a kind is the *outline* of the
kind, so that kinds look alike just when they have one outline.

Where equal ids mean equal types the ids never decide anything that the outlines
would not.  There the relation is an equivalence.  A declared type has the
outline of the type that it was declared from, and the relation cannot tell the
two apart.
-/

namespace TypeRules

/-! ## Outlines -/

/-- What can be seen of a kind from outside, components by their ids. -/
inductive Outline where
  | bool
  | string
  | int (width : Nat)
  | uint (width : Nat)
  | float (width : Nat)
  | pointer (base : Nat)
  | array (length : Nat) (element : Nat)
  | slice (element : Nat)
  | struct
  | func
  | list
  | untyped
  | unknown
  | any
  | void
  | variadicAny
  deriving DecidableEq

namespace Kind

/-- The outline of a kind. -/
def outline : Kind Ty → Outline
  | .bool => .bool
  | .string => .string
  | .int width => .int width
  | .uint width => .uint width
  | .float width => .float width
  | .pointer base => .pointer base.id
  | .array length element => .array length element.id
  | .slice element => .slice element.id
  | .struct _ => .struct
  | .func _ _ => .func
  | .list _ => .list
  | .untyped _ => .untyped
  | .unknown => .unknown
  | .any => .any
  | .void => .void
  | .variadicAny => .variadicAny

/-- Kinds look alike just when they have one outline. -/
theorem sameUnderlying_iff {left right : Kind Ty} :
    left.sameUnderlying right = true ↔ left.outline = right.outline := by
  cases left <;> cases right <;> simp [sameUnderlying, outline, Ty.same]

end Kind

/-! ## Families of types -/

namespace Ty

section Family

variable {family : Set Ty} (injective : family.InjOn Ty.id)

include injective

/-- Where equal ids mean equal types, outlines decide. -/
theorem sameUnderlying_iff {left right : Ty} (leftMember : left ∈ family)
    (rightMember : right ∈ family) :
    left.sameUnderlying right = true ↔
      left.kind.outline = right.kind.outline := by
  rw [sameUnderlying, Bool.or_eq_true, Kind.sameUnderlying_iff, same,
    beq_iff_eq]
  constructor
  · rintro (ids | outlines)
    · rw [injective leftMember rightMember ids]
    · exact outlines
  · exact Or.inr

theorem sameUnderlying_equivalence :
    Equivalence fun left right : family =>
      left.1.sameUnderlying right.1 = true := by
  have outlines (left right : family) :=
    sameUnderlying_iff injective left.2 right.2
  simp only [outlines]
  exact eq_equivalence.comap fun type : family => type.1.kind.outline

/-- Types of one kind are related to the same types. -/
theorem sameUnderlying_congr {left right other : Ty}
    (leftMember : left ∈ family) (rightMember : right ∈ family)
    (otherMember : other ∈ family) (kinds : left.kind = right.kind) :
    left.sameUnderlying other = right.sameUnderlying other ∧
      other.sameUnderlying left = other.sameUnderlying right := by
  constructor
  · rw [Bool.eq_iff_iff, sameUnderlying_iff injective leftMember otherMember,
      sameUnderlying_iff injective rightMember otherMember, kinds]
  · rw [Bool.eq_iff_iff, sameUnderlying_iff injective otherMember leftMember,
      sameUnderlying_iff injective otherMember rightMember, kinds]

end Family

end Ty

/-! ## Declared types -/

/-- The types of a well-formed arena are such a family. -/
theorem Arena.WellFormed.injOn_id {arena : Arena}
    (wellFormed : arena.WellFormed) :
    Set.InjOn Ty.id {type | type ∈ arena.types} := by
  intro left leftMember right rightMember
  exact wellFormed.identified left right (.member leftMember)
    (.member rightMember)

theorem Arena.declare_kind {arena : Arena} {name : String}
    {underlying declared : Ty}
    (accepted : (arena.declare name underlying).1 = .ok declared) :
    declared.kind = underlying.kind := by
  rw [Arena.declare] at accepted
  split_ifs at accepted
  cases accepted
  rfl

namespace Checker

/-- A declared type is there for good, beside the one it was declared from. -/
theorem Reaches.mem_of_declare {checker later : Checker}
    (reachable : checker.Reachable) {name : String} {underlying declared : Ty}
    (member : underlying ∈ checker.arena.types)
    (accepted :
      (checker.arena.declare name underlying).1 = .ok declared)
    (reaches :
      (checker.serve (.construct (.declare name underlying))).2.Reaches
        later) :
    later.Reachable ∧ underlying ∈ later.arena.types ∧
      declared ∈ later.arena.types := by
  have known :
      ∀ type ∈ (Request.construct (.declare name underlying)).operands,
        type ∈ checker.arena.types :=
    List.forall_mem_singleton.mpr member
  have yields := serve_yields reachable.wellFormed _ known
  have declaring := Reachable.serve _ reachable known
  have moves := reaches.moves declaring
  refine ⟨reaches.reachable declaring,
    moves.mem_types (yields.moves.mem_types member),
    moves.mem_types (yields.allocated declared ?_)⟩
  change declared ∈ (Reply.made (checker.arena.declare name underlying).1).types
  rw [accepted]
  exact List.mem_cons_self

/--
On a family of types in which equal ids mean equal types, having the same
underlying kind is an equivalence, and it is decided by the outlines of the two
kinds.  The types of an arena are such a family.  When a type is declared, then
from that time on the declared type and the one it was declared from are
related, on either side, to the same types of the arena, themselves included.
-/
theorem sameUnderlying_ignores_names :
    (∀ family : Set Ty, family.InjOn Ty.id →
        (Equivalence fun left right : family =>
          left.1.sameUnderlying right.1 = true) ∧
        ∀ left ∈ family, ∀ right ∈ family,
          (left.sameUnderlying right = true ↔
            left.kind.outline = right.kind.outline)) ∧
      ∀ checker : Checker, checker.Reachable →
        ∀ underlying ∈ checker.arena.types, ∀ (name : String) (declared : Ty),
          (checker.arena.declare name underlying).1 = .ok declared →
          ∀ later : Checker,
            (checker.serve
              (.construct (.declare name underlying))).2.Reaches later →
            Set.InjOn Ty.id {type | type ∈ later.arena.types} ∧
              underlying ∈ later.arena.types ∧
              declared ∈ later.arena.types ∧
              ∀ other ∈ later.arena.types,
                declared.sameUnderlying other =
                    underlying.sameUnderlying other ∧
                  other.sameUnderlying declared =
                    other.sameUnderlying underlying := by
  constructor
  · intro family injective
    refine ⟨Ty.sameUnderlying_equivalence injective, ?_⟩
    intro left leftMember right rightMember
    exact Ty.sameUnderlying_iff injective leftMember rightMember
  · intro checker reachable underlying member name declared accepted later
      reaches
    rcases reaches.mem_of_declare reachable member accepted with
      ⟨laterReachable, underlyingMember, declaredMember⟩
    have injective := laterReachable.wellFormed.injOn_id
    refine ⟨injective, underlyingMember, declaredMember, ?_⟩
    intro other otherMember
    exact Ty.sameUnderlying_congr injective declaredMember underlyingMember
      otherMember (Arena.declare_kind accepted)

/-- A declared type of slices of truth values. -/
def declaredFlags : Ty :=
  ⟨7, some ⟨"Flags"⟩, .slice Ty.bool⟩

/-- A type that is declared from the declared one. -/
def switches : Ty :=
  ⟨8, some ⟨"Switches"⟩, .slice Ty.bool⟩

/-- The slices of strings, made after all of them. -/
def labels : Ty :=
  ⟨9, none, .slice Ty.string⟩

/-- A run that makes slices and declares a type of them. -/
def declaredFlagsRun : Checker :=
  let sliced := ((initial .standard).serve (.construct (.slice Ty.bool))).2
  (sliced.serve (.construct (.declare "Flags" Ty.flags))).2

/-- The run goes on to declare a type from that type and to make others. -/
def labelsRun : Checker :=
  let declared :=
    (declaredFlagsRun.serve
      (.construct (.declare "Switches" declaredFlags))).2
  (declared.serve (.construct (.slice Ty.string))).2

theorem sameUnderlying_ignores_names_switches :
    declaredFlagsRun.Reachable ∧
      (declaredFlagsRun.arena.declare "Switches" declaredFlags).1 =
        .ok switches ∧
      switches.sameUnderlying Ty.flags = true ∧
      Ty.flags.sameUnderlying switches = true ∧
      switches.sameUnderlying labels = false ∧
      labels.sameUnderlying switches = false := by
  have reachable : declaredFlagsRun.Reachable := by
    refine .serve _ (.serve _ (.initial .standard) ?_) ?_
    · exact List.forall_mem_singleton.mpr (Array.mem_of_getElem? (i := 4) rfl)
    · exact List.forall_mem_singleton.mpr (Array.mem_of_getElem? (i := 6) rfl)
  have reaches :
      (declaredFlagsRun.serve
        (.construct (.declare "Switches" declaredFlags))).2.Reaches
          labelsRun :=
    .serve _ .refl
      (List.forall_mem_singleton.mpr (Array.mem_of_getElem? (i := 5) rfl))
  have accepted :
      (declaredFlagsRun.arena.declare "Switches" declaredFlags).1 =
        .ok switches := rfl
  rcases sameUnderlying_ignores_names.2 _ reachable declaredFlags
      (Array.mem_of_getElem? (i := 7) rfl) _ _ accepted _ reaches with
    ⟨injective, -, switchesMember, alike⟩
  have flagsMember : Ty.flags ∈ labelsRun.arena.types :=
    Array.mem_of_getElem? (i := 6) rfl
  have related : switches.sameUnderlying Ty.flags = true := by
    rw [(alike Ty.flags flagsMember).1]
    decide
  have apart := alike labels (Array.mem_of_getElem? (i := 9) rfl)
  refine ⟨reachable, accepted, related, ?_, ?_, ?_⟩
  · have equivalence :=
      (sameUnderlying_ignores_names.1 _ injective).1
    exact @equivalence.symm ⟨switches, switchesMember⟩
      ⟨Ty.flags, flagsMember⟩ related
  · rw [apart.1]
    decide
  · rw [apart.2]
    decide

end Checker

end TypeRules
