import TypeRules.Proofs.Runs
import TypeRules.Ty.Relation

/-!
# Hash-consing is canonical

Whether two types are identical is decided by comparing them to any depth,
whether they are the same by comparing two numbers.  For unnamed types that are
built from numbers and intrinsic types by pointers, slices and arrays alone the
two come to the same, whoever asked for the types and whenever: an arena makes
each of them once.
-/

namespace TypeRules

/--
The unnamed types built, all the way down, from numbers and intrinsic types by
pointers, slices and arrays.
-/
inductive Ty.Shareable : Ty → Prop where
  | intrinsic {id : Nat} {kind : Kind Ty}
      (intrinsic : kind.isIntrinsic = true) : Shareable ⟨id, none, kind⟩
  | numeric {id : Nat} {kind : Kind Ty}
      (numeric : kind.isNumeric = true) : Shareable ⟨id, none, kind⟩
  | pointer {id : Nat} {base : Ty} (shareable : base.Shareable) :
      Shareable ⟨id, none, .pointer base⟩
  | slice {id : Nat} {element : Ty} (shareable : element.Shareable) :
      Shareable ⟨id, none, .slice element⟩
  | array {id length : Nat} {element : Ty} (shareable : element.Shareable) :
      Shareable ⟨id, none, .array length element⟩

theorem Ty.Shareable.intrinsic_or_spelled {type : Ty}
    (shareable : type.Shareable) :
    type.name = none ∧
      (type.kind.isIntrinsic = true ∨
        (∃ key : InternKey, key.Spells type.kind) ∧
          ∀ component ∈ type.kind.components, component.Shareable) := by
  cases shareable with
  | intrinsic intrinsic => exact ⟨rfl, Or.inl intrinsic⟩
  | @numeric _ kind numeric =>
      refine ⟨rfl, Or.inr ?_⟩
      cases kind with
      | int width => exact ⟨⟨.int width, rfl⟩, by simp [Kind.components]⟩
      | uint width => exact ⟨⟨.uint width, rfl⟩, by simp [Kind.components]⟩
      | float width => exact ⟨⟨.float width, rfl⟩, by simp [Kind.components]⟩
      | bool | string | pointer | array | slice | struct | func | list
      | untyped | unknown | any | void | variadicAny => cases numeric
  | @pointer _ base shareable =>
      exact ⟨rfl, Or.inr ⟨⟨.pointer base.id, base, rfl, rfl⟩,
        List.forall_mem_singleton.mpr shareable⟩⟩
  | @slice _ element shareable =>
      exact ⟨rfl, Or.inr ⟨⟨.slice element.id, element, rfl, rfl⟩,
        List.forall_mem_singleton.mpr shareable⟩⟩
  | @array _ length element shareable =>
      exact ⟨rfl, Or.inr ⟨⟨.array length element.id, element, rfl, rfl⟩,
        List.forall_mem_singleton.mpr shareable⟩⟩

/-! ## Identity one level down -/

theorem Ty.identical_of_id_eq {left right : Ty} (same : left.id = right.id) :
    left.identical right = true := by
  rcases left with ⟨id, name, kind⟩
  unfold Ty.identical
  rw [Bool.or_eq_true, beq_iff_eq]
  exact Or.inl same

theorem Ty.identical_iff_of_unnamed {left right : Ty}
    (unnamed : left.name = none) :
    left.identical right = true ↔
      left.id = right.id ∨
        right.name = none ∧ left.kind.identical right.kind = true := by
  rcases left with ⟨leftId, leftName, leftKind⟩
  rcases right with ⟨rightId, _ | rightName, rightKind⟩ <;>
    simp_all [Ty.identical]

namespace Kind

theorem eq_of_identical_of_leaf {kind other : Kind Ty}
    (leaf : kind.isIntrinsic = true ∨ kind.isNumeric = true)
    (alike : kind.identical other = true) : other = kind := by
  cases kind with
  | bool | string | int | uint | float | unknown | any | void
  | variadicAny => cases other <;> simp_all [Kind.identical]
  | pointer | array | slice | struct | func | list | untyped =>
      rcases leaf with intrinsic | numeric
      · cases intrinsic
      · cases numeric

theorem identical_pointer_iff {base : Ty} {other : Kind Ty} :
    (Kind.pointer base).identical other = true ↔
      ∃ otherBase, other = .pointer otherBase ∧
        base.identical otherBase = true := by
  cases other <;> simp [Kind.identical]

theorem identical_slice_iff {element : Ty} {other : Kind Ty} :
    (Kind.slice element).identical other = true ↔
      ∃ otherElement, other = .slice otherElement ∧
        element.identical otherElement = true := by
  cases other <;> simp [Kind.identical]

theorem identical_array_iff {length : Nat} {element : Ty}
    {other : Kind Ty} :
    (Kind.array length element).identical other = true ↔
      ∃ otherElement, other = .array length otherElement ∧
        element.identical otherElement = true := by
  cases other with
  | array otherLength otherElement =>
      rw [Kind.identical, Bool.and_eq_true, beq_iff_eq]
      constructor
      · rintro ⟨rfl, below⟩
        exact ⟨otherElement, rfl, below⟩
      · rintro ⟨element, ⟨rfl, rfl⟩, below⟩
        exact ⟨rfl, below⟩
  | bool | string | int | uint | float | pointer | slice | struct | func
  | list | untyped | unknown | any | void | variadicAny =>
      simp [Kind.identical]

end Kind

/-- Identity carries a key along if it comes down to ids for components. -/
theorem InternKey.Spells.of_identical {key : InternKey}
    {kind other : Kind Ty} (spells : key.Spells kind)
    (alike : kind.identical other = true)
    (same :
      ∀ component ∈ kind.components,
        ∀ otherComponent ∈ other.components,
          component.identical otherComponent = true →
            component.id = otherComponent.id) :
    key.Spells other := by
  cases key with
  | int width | uint width | float width =>
      cases spells
      exact Kind.eq_of_identical_of_leaf (Or.inr rfl) alike
  | pointer id =>
      rcases spells with ⟨base, rfl, rfl⟩
      rcases Kind.identical_pointer_iff.mp alike with ⟨other, rfl, within⟩
      have ids := same base List.mem_cons_self other List.mem_cons_self within
      exact ⟨other, rfl, ids.symm⟩
  | slice id =>
      rcases spells with ⟨element, rfl, rfl⟩
      rcases Kind.identical_slice_iff.mp alike with ⟨other, rfl, within⟩
      have ids :=
        same element List.mem_cons_self other List.mem_cons_self within
      exact ⟨other, rfl, ids.symm⟩
  | array length id =>
      rcases spells with ⟨element, rfl, rfl⟩
      rcases Kind.identical_array_iff.mp alike with ⟨other, rfl, within⟩
      have ids :=
        same element List.mem_cons_self other List.mem_cons_self within
      exact ⟨other, rfl, ids.symm⟩

/-! ## Identical types are the same -/

theorem Arena.WellFormed.id_eq_of_identical {arena : Arena}
    (wellFormed : arena.WellFormed) {left right : Ty}
    (shareable : left.Shareable) (leftMember : left ∈ arena.types)
    (rightMember : right ∈ arena.types)
    (identical : left.identical right = true) : left.id = right.id := by
  induction left using Ty.induction_on_components generalizing right with
  | step left inductionHypothesis =>
      rcases shareable.intrinsic_or_spelled with ⟨leftUnnamed, sort⟩
      rcases (Ty.identical_iff_of_unnamed leftUnnamed).mp identical with
        same | ⟨rightUnnamed, alike⟩
      · exact same
      apply congrArg Ty.id
      rcases sort with intrinsic | ⟨⟨key, spells⟩, components⟩
      · have kinds := Kind.eq_of_identical_of_leaf (Or.inl intrinsic) alike
        exact (wellFormed.intrinsic_existsUnique intrinsic).unique
          ⟨leftMember, leftUnnamed, rfl⟩ ⟨rightMember, rightUnnamed, kinds⟩
      · have leftComponents := (wellFormed.fits left leftMember).components
        have rightComponents := (wellFormed.fits right rightMember).components
        -- Components of identical types are identical, so by induction they
        -- have the ids that the key of the left type mentions.
        have rightSpells : key.Spells right.kind := by
          apply spells.of_identical alike
          intro component listed other otherListed
          exact inductionHypothesis component listed
            (components component listed) (leftComponents component listed)
            (rightComponents other otherListed)
        exact wellFormed.eq_of_spells leftMember rightMember leftUnnamed
          rightUnnamed spells rightSpells

/--
In every arena that a client brings about, a type that can be shared is
identical to another type of the arena just when both have one id.
-/
theorem Checker.identical_iff_same_id {checker : Checker}
    (reachable : checker.Reachable) {left right : Ty}
    (shareable : left.Shareable) (leftMember : left ∈ checker.arena.types)
    (rightMember : right ∈ checker.arena.types) :
    left.identical right = true ↔ left.id = right.id := by
  constructor
  · exact reachable.wellFormed.id_eq_of_identical shareable leftMember
      rightMember
  · exact Ty.identical_of_id_eq

/-- Rows of numbers, in an arena that made the numbers first. -/
def Ty.row : Ty :=
  ⟨7, none, .slice ⟨6, none, .int 8⟩⟩

/-- The declared type of rows. -/
def Ty.declaredRow : Ty :=
  ⟨8, some ⟨"Row"⟩, .slice ⟨6, none, .int 8⟩⟩

/--
A run that makes rows from numbers found by name, declares a type of rows,
takes the addresses of both sorts of row and then asks for pointers to rows.
-/
def Checker.rowsRun : Checker :=
  let numbers := ((initial .standard).serve (.predeclared "int8")).2
  let rows :=
    (numbers.serve (.construct (.slice ⟨6, none, .int 8⟩))).2
  let declared := (rows.serve (.construct (.declare "Row" Ty.row))).2
  let address := (declared.serve (.unary .unplaced .addressOf Ty.row)).2
  let other := (address.serve (.unary .unplaced .addressOf Ty.declaredRow)).2
  (other.serve (.construct (.pointer Ty.row))).2

theorem Checker.identical_iff_same_id_rowsRun :
    rowsRun.Reachable ∧ rowsRun.arena.nextId = 11 ∧
      ∃ pointer ∈ rowsRun.arena.types, ∃ other ∈ rowsRun.arena.types,
        pointer.kind = .pointer Ty.row ∧
          other.kind = .pointer Ty.declaredRow ∧
          pointer.Shareable ∧ pointer.identical other = false := by
  have reachable : rowsRun.Reachable := by
    refine .serve _ (.serve _ (.serve _ (.serve _ (.serve _ (.serve _
      (.initial .standard) ?_) ?_) ?_) ?_) ?_) ?_
    · simp [Request.operands]
    · exact List.forall_mem_singleton.mpr (Array.mem_of_getElem? (i := 6) rfl)
    · exact List.forall_mem_singleton.mpr (Array.mem_of_getElem? (i := 7) rfl)
    · exact List.forall_mem_singleton.mpr (Array.mem_of_getElem? (i := 7) rfl)
    · exact List.forall_mem_singleton.mpr (Array.mem_of_getElem? (i := 8) rfl)
    · exact List.forall_mem_singleton.mpr (Array.mem_of_getElem? (i := 7) rfl)
  have pointer : ⟨9, none, .pointer Ty.row⟩ ∈ rowsRun.arena.types :=
    Array.mem_of_getElem? (i := 9) rfl
  have other : ⟨10, none, .pointer Ty.declaredRow⟩ ∈ rowsRun.arena.types :=
    Array.mem_of_getElem? (i := 10) rfl
  have shareable : Ty.Shareable ⟨9, none, .pointer Ty.row⟩ :=
    .pointer (.slice (.numeric rfl))
  refine ⟨reachable, rfl, _, pointer, _, other, rfl, rfl, shareable, ?_⟩
  rw [← Bool.not_eq_true,
    identical_iff_same_id reachable shareable pointer other]
  decide

end TypeRules
