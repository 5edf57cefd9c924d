import TypeRules.Proofs.Identity

/-!
# Addresses and what they point to

Taking an address makes the pointers to a type, or finds them if they were made
before.  Following a pointer gives the type that it points to.  The one undoes
the other, in both orders.

That following undoes taking an address can be seen from the two operations
alone.  The other order is about all that has happened to the arena: whoever
asked for the unnamed pointers to a type, they are in the table of shared types
under the id of that type, and nothing else is.
-/

namespace TypeRules

/-! ## The two operators -/

/-- The kinds of the types that an address can be taken of. -/
inductive Kind.Addressable : Kind Ty → Prop where
  | pointer (base : Ty) : Addressable (.pointer base)
  | slice (element : Ty) : Addressable (.slice element)

namespace UnaryOp

variable {options : Options} {operand : Ty}

theorem check_addressOf (enabled : options.addressOfYieldsPointer = true)
    (addressable : operand.kind.Addressable) :
    addressOf.check options operand = ⟨.pointerTo operand, []⟩ := by
  cases kind : operand.kind with
  | pointer base =>
      simp only [check, checkKnown, kind, Kind.isUnknown, enabled,
        Bool.false_eq_true, if_false, if_true]
  | slice element =>
      simp only [check, checkKnown, kind, Kind.isUnknown, enabled,
        Bool.false_eq_true, if_false, if_true]
  | bool | string | int | uint | float | array | struct | func | list
  | untyped | unknown | any | void | variadicAny =>
      rw [kind] at addressable
      cases addressable

theorem check_deref {base : Ty} (pointer : operand.kind = .pointer base) :
    deref.check options operand = .yields base := by
  simp only [check, checkKnown, pointer, Kind.isUnknown, Bool.false_eq_true,
    if_false]

end UnaryOp

namespace Checker

theorem unary_addressOf {checker : Checker} {operand : Ty}
    (enabled : checker.options.addressOfYieldsPointer = true)
    (addressable : operand.kind.Addressable) (span : Span) :
    checker.unary span .addressOf operand =
      checker.withArena (checker.arena.pointerTo operand) := by
  rw [unary, UnaryOp.check_addressOf enabled addressable]
  rfl

theorem unary_deref {pointer base : Ty} (points : pointer.kind = .pointer base)
    (checker : Checker) (span : Span) :
    checker.unary span .deref pointer = (base, checker) := by
  rw [unary, UnaryOp.check_deref points]
  rfl

end Checker

/-! ## The pointers to a type -/

namespace Arena.WellFormed

variable {arena : Arena} {base : Ty}

/-- The pointers to a type have no name and point to that very type. -/
theorem pointerTo_type (wellFormed : arena.WellFormed)
    (member : base ∈ arena.types) :
    (arena.pointerTo base).1.name = none ∧
      (arena.pointerTo base).1.kind = .pointer base := by
  have yields := Yields.pointerTo wellFormed member
  have after := yields.moves.wellFormed wellFormed
  apply wellFormed.spelled.unnamed_type after.identified
  · exact List.forall_mem_singleton.mpr (yields.moves.mem_types member)
  · exact yields.allocated _ List.mem_cons_self

/-- Unnamed pointers that were made before are found again. -/
theorem pointerTo_eq (wellFormed : arena.WellFormed) {pointer : Ty}
    (member : pointer ∈ arena.types) (unnamed : pointer.name = none)
    (points : pointer.kind = .pointer base) :
    arena.pointerTo base = (pointer, arena) := by
  have shared : arena.interned.get? (.pointer base.id) = some pointer :=
    (wellFormed.shared _ _).mpr ⟨member, unnamed, base, points, rfl⟩
  simp only [Arena.pointerTo, Arena.unnamed, Kind.internKey?, shared]

/-- Pointers of one id point to one type, whenever they were made. -/
theorem pointerTo_inj (wellFormed : arena.WellFormed)
    (member : base ∈ arena.types) {pointer other : Ty}
    (pointerMember : pointer ∈ arena.types)
    (points : pointer.kind = .pointer other)
    (ids : (arena.pointerTo base).1.id = pointer.id) : base = other := by
  have yields := Yields.pointerTo wellFormed member
  have after := yields.moves.wellFormed wellFormed
  have same : (arena.pointerTo base).1 = pointer :=
    after.identified _ _
      (.member (yields.allocated _ List.mem_cons_self))
      (.member (yields.moves.mem_types pointerMember)) ids
  have kinds : Kind.pointer base = .pointer other := by
    rw [← (wellFormed.pointerTo_type member).2, same, points]
  exact Kind.pointer.inj kinds

end Arena.WellFormed

/-! ## Taking addresses and following pointers -/

namespace Checker

section Known

variable {checker : Checker} (reachable : checker.Reachable)
  (enabled : checker.options.addressOfYieldsPointer = true)
  {pointer operand : Ty} (member : pointer ∈ checker.arena.types)
  (points : pointer.kind = .pointer operand)

include reachable enabled member points

/-- An address that was taken before is the same again, and costs nothing. -/
theorem address_found (unnamed : pointer.name = none)
    (addressable : operand.kind.Addressable) (span : Span) :
    checker.unary span .addressOf operand = (pointer, checker) := by
  rw [unary_addressOf enabled addressable,
    reachable.wellFormed.pointerTo_eq member unnamed points]
  rfl

/-- The addresses of different types are different. -/
theorem address_differs {other : Ty} (otherMember : other ∈ checker.arena.types)
    (addressable : other.kind.Addressable) (differ : other.id ≠ operand.id)
    (span : Span) :
    (checker.unary span .addressOf other).1.id ≠ pointer.id := by
  intro ids
  rw [unary_addressOf enabled addressable] at ids
  have same :=
    reachable.wellFormed.pointerTo_inj otherMember member points ids
  exact differ (congrArg Ty.id same)

end Known

/--
Let taking an address yield a pointer.  The address of a pointer or a slice,
declared or not, is taken without a diagnostic.  It is an unnamed pointer, and
following it gives back the operand.  At any later time the address of that
operand is the same pointer, and the address of an operand with another id is a
pointer with another id.  The other way round, following an unnamed pointer to a
pointer or a slice and taking the address of what it points to gives back that
pointer.
-/
theorem address_and_base_inverse {checker : Checker}
    (reachable : checker.Reachable)
    (enabled : checker.options.addressOfYieldsPointer = true) (span : Span) :
    (∀ operand ∈ checker.arena.types, operand.kind.Addressable →
        ∃ pointer after,
          checker.unary span .addressOf operand = (pointer, after) ∧
            after.diagnostics = checker.diagnostics ∧
            pointer.name = none ∧ pointer.kind = .pointer operand ∧
            ∀ later : Checker, after.Reaches later → ∀ place : Span,
              later.unary place .deref pointer = (operand, later) ∧
                (later.options.addressOfYieldsPointer = true →
                  later.unary place .addressOf operand = (pointer, later) ∧
                    ∀ other ∈ later.arena.types, other.kind.Addressable →
                      other.id ≠ operand.id →
                        (later.unary place .addressOf other).1.id ≠
                          pointer.id)) ∧
      ∀ pointer ∈ checker.arena.types, pointer.name = none →
        ∀ base, pointer.kind = .pointer base → base.kind.Addressable →
          ∀ place : Span,
            let followed := checker.unary span .deref pointer
            followed.2.unary place .addressOf followed.1 =
              (pointer, checker) := by
  constructor
  · intro operand member addressable
    have taken := unary_addressOf enabled addressable span
    have served :=
      Reachable.serve (.unary span .addressOf operand) reachable
        (List.forall_mem_singleton.mpr member)
    change (checker.unary span .addressOf operand).2.Reachable at served
    rw [taken] at served
    rcases reachable.wellFormed.pointerTo_type member with ⟨unnamed, points⟩
    refine ⟨_, _, taken, rfl, unnamed, points, ?_⟩
    intro later reaches place
    have laterReachable := reaches.reachable served
    have pointerMember :=
      (reaches.moves served).mem_types
        (reachable.wellFormed.unnamed_mem (.pointer operand))
    refine ⟨unary_deref points later place, ?_⟩
    intro laterEnabled
    constructor
    · exact address_found laterReachable laterEnabled pointerMember points
        unnamed addressable place
    · intro other otherMember otherAddressable differ
      exact address_differs laterReachable laterEnabled pointerMember points
        otherMember otherAddressable differ place
  · intro pointer member unnamed base points addressable place
    rw [unary_deref points]
    exact address_found reachable enabled member points unnamed addressable
      place

/-- The pointers to rows, made as such and not by taking an address. -/
def rowPointer : Ty :=
  ⟨9, none, .pointer Ty.row⟩

/-- A run that makes rows, declares a type of them and makes pointers to them. -/
def rowPointerRun : Checker :=
  let numbers := ((initial .standard).serve (.predeclared "int8")).2
  let rows := (numbers.serve (.construct (.slice ⟨6, none, .int 8⟩))).2
  let declared := (rows.serve (.construct (.declare "Row" Ty.row))).2
  (declared.serve (.construct (.pointer Ty.row))).2

theorem address_and_base_inverse_rows :
    rowPointerRun.Reachable ∧
      (∃ pointer after,
        rowPointerRun.unary .unplaced .addressOf Ty.declaredRow =
            (pointer, after) ∧
          pointer.id = 10 ∧
          let later := (after.serve (.construct (.slice Ty.string))).2
          later.unary .unplaced .deref pointer = (Ty.declaredRow, later) ∧
            later.unary .unplaced .addressOf Ty.declaredRow =
              (pointer, later) ∧
            (later.unary .unplaced .addressOf Ty.row).1.id ≠ pointer.id) ∧
      let followed := rowPointerRun.unary .unplaced .deref rowPointer
      followed.2.unary .unplaced .addressOf followed.1 =
        (rowPointer, rowPointerRun) := by
  have reachable : rowPointerRun.Reachable := by
    refine .serve _ (.serve _ (.serve _ (.serve _ (.initial .standard) ?_)
      ?_) ?_) ?_
    · simp [Request.operands]
    · exact List.forall_mem_singleton.mpr (Array.mem_of_getElem? (i := 6) rfl)
    · exact List.forall_mem_singleton.mpr (Array.mem_of_getElem? (i := 7) rfl)
    · exact List.forall_mem_singleton.mpr (Array.mem_of_getElem? (i := 7) rfl)
  have inverse := address_and_base_inverse reachable rfl .unplaced
  refine ⟨reachable, ?_, ?_⟩
  · rcases inverse.1 Ty.declaredRow (Array.mem_of_getElem? (i := 8) rfl)
        (.slice _) with
      ⟨pointer, after, taken, -, -, -, forGood⟩
    cases taken
    have reaches :=
      @Reaches.serve (rowPointerRun.unary .unplaced .addressOf Ty.declaredRow).2
        _ (.construct (.slice Ty.string)) .refl
        (List.forall_mem_singleton.mpr (Array.mem_of_getElem? (i := 5) rfl))
    rcases forGood _ reaches .unplaced with ⟨followed, again⟩
    rcases again rfl with ⟨same, differs⟩
    refine ⟨_, _, rfl, rfl, followed, same, ?_⟩
    exact differs Ty.row (Array.mem_of_getElem? (i := 7) rfl) (.slice _)
      (by decide)
  · exact inverse.2 rowPointer (Array.mem_of_getElem? (i := 9) rfl) rfl Ty.row
      rfl (.slice _) .unplaced

end Checker

end TypeRules
