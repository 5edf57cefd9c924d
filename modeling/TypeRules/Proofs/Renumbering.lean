import Mathlib.Data.Set.Function
import Mathlib.Logic.Equiv.Basic
import TypeRules.Proofs.Rendering

/-!
# Ids do not matter

Types get their ids in the order in which they are made.  Ids are compared at
every level of a type, and spellings are kept under them, but nothing is ever
done with an id beyond telling whether it equals another.

So let two types get new ids throughout, equal ones for equal ones and distinct
ones for distinct ones.  They are related as before, an assignment between them
fails at the same place of the types, and from tables that keep the same texts
under old and new ids the same diagnostic is worked out.
-/

namespace TypeRules

/-! ## Types with new ids -/

mutual

/-- A type with new ids: its own and those of all that it is built from. -/
def Ty.renumbered (number : Nat → Nat) (type : Ty) : Ty :=
  match type with
  | ⟨id, name, kind⟩ => ⟨number id, name, kind.renumbered number⟩
termination_by structural type

/-- A kind with new ids. -/
def Kind.renumbered (number : Nat → Nat) (kind : Kind Ty) : Kind Ty :=
  match kind with
  | .bool => .bool
  | .string => .string
  | .int width => .int width
  | .uint width => .uint width
  | .float width => .float width
  | .pointer base => .pointer (base.renumbered number)
  | .array length element => .array length (element.renumbered number)
  | .slice element => .slice (element.renumbered number)
  | .struct fields => .struct (allFieldsRenumbered number fields)
  | .func params results =>
      .func (allRenumbered number params) (allRenumbered number results)
  | .list types => .list (allRenumbered number types)
  | .untyped constant => .untyped constant
  | .unknown => .unknown
  | .any => .any
  | .void => .void
  | .variadicAny => .variadicAny
termination_by structural kind

/-- Several types with new ids. -/
def allRenumbered (number : Nat → Nat) (types : List Ty) : List Ty :=
  match types with
  | [] => []
  | type :: types => type.renumbered number :: allRenumbered number types
termination_by structural types

/-- Fields whose types have new ids. -/
def allFieldsRenumbered (number : Nat → Nat) (fields : List (Field Ty)) :
    List (Field Ty) :=
  match fields with
  | [] => []
  | field :: fields =>
      field.renumbered number :: allFieldsRenumbered number fields
termination_by structural fields

/-- A field whose type has new ids. -/
def Field.renumbered (number : Nat → Nat) (field : Field Ty) : Field Ty :=
  match field with
  | ⟨name, type⟩ => ⟨name, type.renumbered number⟩
termination_by structural field

end

/-- A problem whose types have new ids. -/
def Problem.renumbered (number : Nat → Nat) (problem : Problem Ty) :
    Problem Ty :=
  Id.run (problem.mapM fun type => pure (type.renumbered number))

section

variable (number : Nat → Nat)

@[simp]
theorem Ty.renumbered_id (type : Ty) :
    (type.renumbered number).id = number type.id := by
  cases type
  rfl

@[simp]
theorem Ty.renumbered_name (type : Ty) :
    (type.renumbered number).name = type.name := by
  cases type
  rfl

@[simp]
theorem Ty.renumbered_kind (type : Ty) :
    (type.renumbered number).kind = type.kind.renumbered number := by
  cases type
  rfl

theorem allRenumbered_eq_map (types : List Ty) :
    allRenumbered number types = types.map (Ty.renumbered number) := by
  induction types with
  | nil => rfl
  | cons type types inductionHypothesis =>
      rw [allRenumbered, inductionHypothesis, List.map_cons]

@[simp]
theorem Kind.isUnknown_renumbered (kind : Kind Ty) :
    (kind.renumbered number).isUnknown = kind.isUnknown := by
  cases kind <;> rfl

@[simp]
theorem Kind.isAny_renumbered (kind : Kind Ty) :
    (kind.renumbered number).isAny = kind.isAny := by
  cases kind <;> rfl

@[simp]
theorem Kind.isPointer_renumbered (kind : Kind Ty) :
    (kind.renumbered number).isPointer = kind.isPointer := by
  cases kind <;> rfl

@[simp]
theorem Kind.isPointerToAny_renumbered (kind : Kind Ty) :
    (kind.renumbered number).isPointerToAny = kind.isPointerToAny := by
  cases kind with
  | pointer base =>
      rw [Kind.renumbered, Kind.isPointerToAny, Ty.renumbered_kind,
        Kind.isAny_renumbered, Kind.isPointerToAny]
  | bool | string | int | uint | float | array | slice | struct | func | list
  | untyped | unknown | any | void | variadicAny => rfl

@[simp]
theorem Kind.constantRange?_renumbered (options : Options) (kind : Kind Ty) :
    (kind.renumbered number).constantRange? options =
      kind.constantRange? options := by
  cases kind <;> rfl

variable {m : Type → Type} [Monad m] {σ : Type} (visit : Ty → m σ)

theorem mapM_allRenumbered (types : List Ty) :
    (allRenumbered number types).mapM' visit =
      types.mapM' fun type => visit (type.renumbered number) := by
  induction types with
  | nil => rfl
  | cons type types inductionHypothesis =>
      rw [allRenumbered, List.mapM', inductionHypothesis]
      rfl

theorem mapM_allFieldsRenumbered (fields : List (Field Ty)) :
    (allFieldsRenumbered number fields).mapM' (Field.mapM visit) =
      fields.mapM' (Field.mapM fun type => visit (type.renumbered number)) := by
  induction fields with
  | nil => rfl
  | cons field fields inductionHypothesis =>
      cases field
      rw [allFieldsRenumbered, List.mapM', inductionHypothesis]
      rfl

/-- Going through a kind with new ids is going through the kind. -/
theorem Kind.mapM_renumbered (kind : Kind Ty) :
    (kind.renumbered number).mapM visit =
      kind.mapM fun type => visit (type.renumbered number) := by
  cases kind with
  | struct fields =>
      rw [Kind.renumbered, Kind.mapM, mapM_allFieldsRenumbered]
      rfl
  | func params results =>
      rw [Kind.renumbered, Kind.mapM, mapM_allRenumbered, mapM_allRenumbered]
      rfl
  | list types =>
      rw [Kind.renumbered, Kind.mapM, mapM_allRenumbered]
      rfl
  | bool | string | int | uint | float | pointer | array | slice | untyped
  | unknown | any | void | variadicAny => rfl

theorem Problem.mapM_renumbered (problem : Problem Ty) :
    (problem.renumbered number).mapM visit =
      problem.mapM fun type => visit (type.renumbered number) := by
  cases problem <;> rfl

end

/-! ## Relations -/

/-- New ids tell the types of a family apart, components included. -/
structure Ty.KeptApart (number : Nat → Nat) (owns : Ty → Prop) : Prop where
  components :
    ∀ type, owns type → ∀ component ∈ type.kind.components, owns component
  distinct :
    ∀ left right, owns left → owns right →
      number left.id = number right.id → left.id = right.id

section

variable {number : Nat → Nat}

theorem Ty.identical_eq (left right : Ty) :
    left.identical right =
      (left.same right ||
        match left.name, right.name with
        | some leftName, some rightName => leftName == rightName
        | none, none => left.kind.identical right.kind
        | _, _ => false) := by
  cases left
  rfl

theorem allIdentical_renumbered {left right : List Ty}
    (each : ∀ first ∈ left, ∀ second ∈ right,
      (first.renumbered number).identical (second.renumbered number) =
        first.identical second) :
    allIdentical (allRenumbered number left) (allRenumbered number right) =
      allIdentical left right := by
  induction left generalizing right with
  | nil => cases right <;> rfl
  | cons first left inductionHypothesis =>
      cases right with
      | nil => rfl
      | cons second right =>
          have heads :=
            each first List.mem_cons_self second List.mem_cons_self
          have tails := @inductionHypothesis right
            fun first firstMember second secondMember =>
              each first (List.mem_cons_of_mem _ firstMember) second
                (List.mem_cons_of_mem _ secondMember)
          rw [allRenumbered, allRenumbered, allIdentical, heads, tails,
            allIdentical]

theorem allFieldsIdentical_renumbered {left right : List (Field Ty)}
    (each : ∀ first ∈ left, ∀ second ∈ right,
      (first.type.renumbered number).identical
          (second.type.renumbered number) =
        first.type.identical second.type) :
    allFieldsIdentical (allFieldsRenumbered number left)
        (allFieldsRenumbered number right) =
      allFieldsIdentical left right := by
  induction left generalizing right with
  | nil => cases right <;> rfl
  | cons first left inductionHypothesis =>
      cases right with
      | nil => rfl
      | cons second right =>
          have types :=
            each first List.mem_cons_self second List.mem_cons_self
          have heads :
              (first.renumbered number).identical
                  (second.renumbered number) =
                first.identical second := by
            cases first
            cases second
            exact congrArg (_ && ·) types
          have tails := @inductionHypothesis right
            fun first firstMember second secondMember =>
              each first (List.mem_cons_of_mem _ firstMember) second
                (List.mem_cons_of_mem _ secondMember)
          rw [allFieldsRenumbered, allFieldsRenumbered, allFieldsIdentical,
            heads, tails, allFieldsIdentical]

theorem Kind.identical_renumbered {left right : Kind Ty}
    (each : ∀ first ∈ left.components, ∀ second ∈ right.components,
      (first.renumbered number).identical (second.renumbered number) =
        first.identical second) :
    (left.renumbered number).identical (right.renumbered number) =
      left.identical right := by
  -- Kinds of different shape are not identical, whatever they hold.
  cases left <;> cases right <;> try rfl
  case pointer.pointer base other =>
    exact each base List.mem_cons_self other List.mem_cons_self
  case array.array length element otherLength other =>
    exact congrArg (length == otherLength && ·)
      (each element List.mem_cons_self other List.mem_cons_self)
  case slice.slice element other =>
    exact each element List.mem_cons_self other List.mem_cons_self
  case struct.struct fields others =>
    refine allFieldsIdentical_renumbered ?_
    intro first firstMember second secondMember
    exact each _ (List.mem_map_of_mem firstMember) _
      (List.mem_map_of_mem secondMember)
  case func.func params results otherParams otherResults =>
    refine congrArg₂ (· && ·) (allIdentical_renumbered ?_)
      (allIdentical_renumbered ?_)
    · intro first firstMember second secondMember
      exact each _ (List.mem_append_left _ firstMember) _
        (List.mem_append_left _ secondMember)
    · intro first firstMember second secondMember
      exact each _ (List.mem_append_right _ firstMember) _
        (List.mem_append_right _ secondMember)
  case list.list types others => exact allIdentical_renumbered each

theorem Kind.sameUnderlying_renumbered {left right : Kind Ty}
    (each : ∀ first ∈ left.components, ∀ second ∈ right.components,
      (first.renumbered number).same (second.renumbered number) =
        first.same second) :
    (left.renumbered number).sameUnderlying (right.renumbered number) =
      left.sameUnderlying right := by
  cases left <;> cases right <;> try rfl
  case pointer.pointer base other =>
    exact each base List.mem_cons_self other List.mem_cons_self
  case array.array length element otherLength other =>
    exact congrArg (length == otherLength && ·)
      (each element List.mem_cons_self other List.mem_cons_self)
  case slice.slice element other =>
    exact each element List.mem_cons_self other List.mem_cons_self

namespace Ty.KeptApart

variable {owns : Ty → Prop} (apart : Ty.KeptApart number owns)

include apart

theorem same {left right : Ty} (leftOwned : owns left)
    (rightOwned : owns right) :
    (left.renumbered number).same (right.renumbered number) =
      left.same right := by
  rw [Bool.eq_iff_iff, Ty.same, Ty.same, beq_iff_eq, beq_iff_eq,
    Ty.renumbered_id, Ty.renumbered_id]
  constructor
  · exact apart.distinct left right leftOwned rightOwned
  · exact congrArg number

/-- Types with new ids are identical exactly if they were before. -/
theorem identical {left right : Ty} (leftOwned : owns left)
    (rightOwned : owns right) :
    (left.renumbered number).identical (right.renumbered number) =
      left.identical right := by
  induction left using Ty.induction_on_components generalizing right with
  | step left inductionHypothesis =>
      have ids := apart.same leftOwned rightOwned
      have kinds :
          (left.kind.renumbered number).identical
              (right.kind.renumbered number) =
            left.kind.identical right.kind := by
        apply Kind.identical_renumbered
        intro first firstMember second secondMember
        exact inductionHypothesis first firstMember
          (apart.components left leftOwned first firstMember)
          (apart.components right rightOwned second secondMember)
      rw [Ty.identical_eq, Ty.identical_eq, ids, Ty.renumbered_name,
        Ty.renumbered_name, Ty.renumbered_kind, Ty.renumbered_kind, kinds]

theorem sameUnderlying {left right : Ty} (leftOwned : owns left)
    (rightOwned : owns right) :
    (left.renumbered number).sameUnderlying (right.renumbered number) =
      left.sameUnderlying right := by
  rw [Ty.sameUnderlying, apart.same leftOwned rightOwned,
    Ty.renumbered_kind, Ty.renumbered_kind, Kind.sameUnderlying_renumbered,
    Ty.sameUnderlying]
  intro first firstMember second secondMember
  exact apart.same (apart.components left leftOwned first firstMember)
    (apart.components right rightOwned second secondMember)

/-! ## Assignments -/

theorem acceptsOutright (options : Options) {dest source : Ty}
    (destOwned : owns dest) (sourceOwned : owns source) :
    (dest.renumbered number).acceptsOutright options
        (source.renumbered number) =
      dest.acceptsOutright options source := by
  simp [Ty.acceptsOutright, apart.same destOwned sourceOwned]

end Ty.KeptApart

theorem Ty.constantObstacle?_renumbered (options : Options)
    (dest source : Ty) (constant : Constant) :
    (dest.renumbered number).constantObstacle? options
        (source.renumbered number) constant =
      (dest.constantObstacle? options source constant).map
        (Problem.renumbered number) := by
  rw [Ty.constantObstacle?, Ty.constantObstacle?, Ty.renumbered_kind,
    Kind.constantRange?_renumbered]
  cases kind : dest.kind with
  | int | uint =>
      dsimp only [Kind.renumbered]
      split_ifs <;> rfl
  | bool | string | float | pointer | array | slice | struct | func | list
  | untyped | unknown | any | void | variadicAny => rfl

/-- Searches that find corresponding things wherever they look. -/
theorem findSome?_eq_map {α β : Type} {members : List α}
    {search other : α → Option β} {corresponding : β → β}
    (each : ∀ member ∈ members,
      search member = (other member).map corresponding) :
    members.findSome? search =
      (members.findSome? other).map corresponding := by
  induction members with
  | nil => rfl
  | cons member members inductionHypothesis =>
      rw [List.forall_mem_cons] at each
      rw [List.findSome?_cons, List.findSome?_cons, each.1,
        inductionHypothesis each.2]
      cases other member <;> rfl

theorem eachObstacle?_renumbered {options : Options} {dest : Ty}
    {sources : List Ty}
    (each : ∀ source ∈ sources,
      (dest.renumbered number).obstacle? options (source.renumbered number) =
        (dest.obstacle? options source).map (Problem.renumbered number)) :
    eachObstacle? options (dest.renumbered number)
        (allRenumbered number sources) =
      (eachObstacle? options dest sources).map
        (Problem.renumbered number) := by
  rw [eachObstacle?_eq_findSome?, eachObstacle?_eq_findSome?,
    allRenumbered_eq_map, List.findSome?_map]
  exact findSome?_eq_map each

theorem pairwiseObstacle?_renumbered {options : Options}
    {dests sources : List Ty}
    (each : ∀ source ∈ sources, ∀ dest ∈ dests,
      (dest.renumbered number).obstacle? options (source.renumbered number) =
        (dest.obstacle? options source).map (Problem.renumbered number)) :
    pairwiseObstacle? options (allRenumbered number dests)
        (allRenumbered number sources) =
      (pairwiseObstacle? options dests sources).map
        (Problem.renumbered number) := by
  rw [pairwiseObstacle?_eq_findSome?, pairwiseObstacle?_eq_findSome?,
    allRenumbered_eq_map, allRenumbered_eq_map, List.zip_map,
    List.findSome?_map]
  apply findSome?_eq_map
  intro pair member
  have occurs := List.of_mem_zip member
  exact each pair.2 occurs.2 pair.1 occurs.1

/-- An assignment between types with new ids fails as it did before. -/
theorem Ty.KeptApart.obstacle? {owns : Ty → Prop}
    (apart : Ty.KeptApart number owns) (options : Options)
    {dest source : Ty} (destOwned : owns dest) (sourceOwned : owns source) :
    (dest.renumbered number).obstacle? options (source.renumbered number) =
      (dest.obstacle? options source).map (Problem.renumbered number) := by
  induction source using Ty.induction_on_components generalizing dest with
  | step source inductionHypothesis =>
      rw [Ty.obstacle?_eq, Ty.obstacle?_eq,
        apart.acceptsOutright options destOwned sourceOwned,
        Ty.renumbered_kind]
      split_ifs with outright
      · rfl
      cases kind : source.kind with
      | untyped constant =>
          exact Ty.constantObstacle?_renumbered options dest source constant
      | list sources =>
          have parts :
              ∀ part ∈ sources, ∀ element ∈ dest.kind.components,
                (element.renumbered number).obstacle? options
                    (part.renumbered number) =
                  (element.obstacle? options part).map
                    (Problem.renumbered number) := by
            intro part member element occurs
            have partMember : part ∈ source.kind.components := kind ▸ member
            exact inductionHypothesis part partMember
              (apart.components dest destOwned element occurs)
              (apart.components source sourceOwned part partMember)
          rw [Kind.renumbered, Kind.obstacle?, Kind.obstacle?,
            Ty.renumbered_kind]
          cases destKind : dest.kind with
          | array | slice =>
              rw [destKind] at parts
              exact eachObstacle?_renumbered fun part member =>
                parts part member _ List.mem_cons_self
          | list dests =>
              rw [destKind, Kind.components] at parts
              dsimp only [Kind.renumbered]
              rw [pairwiseObstacle?_renumbered parts]
              simp only [allRenumbered_eq_map, List.length_map]
              split_ifs <;> rfl
          | bool | string | int | uint | float | pointer | struct | func
          | untyped | unknown | any | void | variadicAny => rfl
      | bool | string | int | uint | float | pointer | array | slice
      | struct | func | unknown | any | void | variadicAny => rfl

/-! ## Spellings -/

/-- What is kept under the ids of types is kept under their new ids as well. -/
def KeptAlike (number : Nat → Nat) (owns : Ty → Prop)
    (printed other : Table Nat String) : Prop :=
  ∀ type, owns type → other.get? (number type.id) = printed.get? type.id

/--
Two computations that give one value from tables that keep the same, and leave
tables that keep the same.
-/
def SpellsAlike (number : Nat → Nat) (owns : Ty → Prop) {α : Type}
    (spelling other : PrintM α) : Prop :=
  ∀ printed otherPrinted, KeptAlike number owns printed otherPrinted →
    (other.run otherPrinted).1 = (spelling.run printed).1 ∧
      KeptAlike number owns (spelling.run printed).2
        (other.run otherPrinted).2

/-- The names that a type is spelled with, its components left out. -/
def Ty.names (type : Ty) : List Atom :=
  type.name.toList ++ type.kind.fieldNames

namespace SpellsAlike

variable {owns : Ty → Prop} {α β : Type}

theorem pure (value : α) :
    SpellsAlike number owns (Pure.pure value) (Pure.pure value) := by
  intro printed otherPrinted kept
  exact ⟨rfl, kept⟩

theorem bind {first otherFirst : PrintM α} {next otherNext : α → PrintM β}
    (firstAlike : SpellsAlike number owns first otherFirst)
    (nextAlike : ∀ printed,
      SpellsAlike number owns (next (first.run printed).1)
        (otherNext (first.run printed).1)) :
    SpellsAlike number owns (first >>= next) (otherFirst >>= otherNext) := by
  intro printed otherPrinted kept
  rcases firstAlike printed otherPrinted kept with ⟨given, keptAfter⟩
  show
    ((otherNext (otherFirst.run otherPrinted).1).run
          (otherFirst.run otherPrinted).2).1 =
        ((next (first.run printed).1).run (first.run printed).2).1 ∧
      KeptAlike number owns
        ((next (first.run printed).1).run (first.run printed).2).2
        ((otherNext (otherFirst.run otherPrinted).1).run
          (otherFirst.run otherPrinted).2).2
  rw [given]
  exact nextAlike printed _ _ keptAfter

theorem remember (apart : Ty.KeptApart number owns) {type : Ty}
    (owned : owns type) {spelling other : PrintM String}
    (alike : SpellsAlike number owns spelling other) :
    SpellsAlike number owns (remember type.id spelling)
      (TypeRules.remember (number type.id) other) := by
  intro printed otherPrinted kept
  rw [remember_run, remember_run, kept type owned]
  split
  · exact ⟨rfl, kept⟩
  · rcases alike printed otherPrinted kept with ⟨given, keptAfter⟩
    refine ⟨given, ?_⟩
    intro later laterOwned
    have ids : number later.id = number type.id ↔ later.id = type.id :=
      ⟨apart.distinct later type laterOwned owned, congrArg number⟩
    rw [Table.get?_insert, Table.get?_insert, given,
      keptAfter later laterOwned]
    simp only [ids]

variable {shown otherShown : Atom → String}

theorem lockstep :
    Lockstep fun α (spelling other : PrintM α) =>
      SpellsAlike number owns spelling other where
  pure := pure
  bind first next := bind first fun _ => next _

/-- A type is spelled alike under its old and its new id. -/
theorem spelling (apart : Ty.KeptApart number owns)
    (names : ∀ type, owns type → ∀ name ∈ type.names,
      otherShown name = shown name)
    {type : Ty} (owned : owns type) :
    SpellsAlike number owns (type.spelling shown)
      ((type.renumbered number).spelling otherShown) := by
  refine lockstep.type (Ty.spelling shown)
    (fun type => (type.renumbered number).spelling otherShown)
    apart.components ?_ owned
  intro type owned parts
  rw [← Kind.spellComponents_eq_mapM, ← Kind.mapM_renumbered,
    ← Kind.spellComponents_eq_mapM] at parts
  have own := names type owned
  rcases type with ⟨id, _ | name, kind⟩
  · refine remember apart owned (bind parts fun printed => ?_)
    have fields :
        ((kind.spellComponents shown).run printed).1.spell otherShown =
          ((kind.spellComponents shown).run printed).1.spell shown := by
      apply Kind.spell_congr
      rw [Kind.fieldNames_spellComponents]
      exact own
    rw [fields]
    exact pure _
  · refine remember apart owned ?_
    rw [own name List.mem_cons_self]
    exact pure _

theorem problem (apart : Ty.KeptApart number owns)
    (names : ∀ type, owns type → ∀ name ∈ type.names,
      otherShown name = shown name)
    {problem : Problem Ty} (owned : problem.Owned owns) :
    SpellsAlike number owns (problem.mapM (Ty.spelling shown))
      ((problem.renumbered number).mapM (Ty.spelling otherShown)) := by
  rw [Problem.mapM_renumbered]
  exact lockstep.problem fun type member =>
    spelling apart names (owned type member)

end SpellsAlike

end

/-! ## What a client is told -/

namespace Checker

/--
An assignment between types with new ids is answered as before and adds the
same diagnostics, if what is kept is kept alike and names are shown alike.
-/
theorem assign_renumbered {number : Nat → Nat} {owns : Ty → Prop}
    (apart : Ty.KeptApart number owns) {first second : Checker}
    (options : second.options = first.options)
    (kept : KeptAlike number owns first.arena.printed second.arena.printed)
    (names : ∀ type, owns type → ∀ name ∈ type.names,
      second.arena.shown name = first.arena.shown name)
    (span : Span) {dest source : Ty} (destOwned : owns dest)
    (sourceOwned : owns source) :
    let before := first.assign span dest source
    let after := second.assign span (dest.renumbered number)
      (source.renumbered number)
    after.1 = before.1 ∧
      ∃ added, before.2.diagnostics = first.diagnostics ++ added ∧
        after.2.diagnostics = second.diagnostics ++ added := by
  dsimp only
  rw [assign, assign, options,
    apart.obstacle? first.options destOwned sourceOwned]
  cases found : dest.obstacle? first.options source with
  | none => exact ⟨rfl, [], by simp⟩
  | some problem =>
      have owned :=
        Ty.obstacle?_owned apart.components destOwned sourceOwned found
      have spelled := SpellsAlike.problem apart names owned _ _ kept
      refine ⟨rfl, [first.diagnosticOf span problem],
        first.report_diagnostics_eq span problem, ?_⟩
      have reported :=
        second.report_diagnostics_eq span (problem.renumbered number)
      rw [diagnosticOf, spelled.1] at reported
      exact reported

end Checker

/-- The ids that occur in some types, at any depth. -/
def Ty.idsWithin (types : List Ty) : Set Nat :=
  {id | ∃ type, Ty.OccursIn (· ∈ types) type ∧ type.id = id}

theorem Ty.KeptApart.of_injOn {number : Nat → Nat} {types : List Ty}
    (injective : Set.InjOn number (Ty.idsWithin types)) :
    Ty.KeptApart number (Ty.OccursIn (· ∈ types)) where
  components _ occurs _ part := occurs.component part
  distinct left right leftOccurs rightOccurs ids :=
    injective ⟨left, leftOccurs, rfl⟩ ⟨right, rightOccurs, rfl⟩ ids

/--
Let two types get new ids throughout, such that distinct ids stay distinct.
Whether the types are identical and whether they have the same underlying kind
stays as it was.  So do the answer to an assignment and the diagnostics that it
adds, under all options and from all arenas that have not spelled anything yet
and show the names in the types alike.
-/
theorem Ty.independent_of_ids (number : Nat → Nat) (left right : Ty)
    (injective : Set.InjOn number (Ty.idsWithin [left, right])) :
    (left.renumbered number).identical (right.renumbered number) =
        left.identical right ∧
      (left.renumbered number).sameUnderlying (right.renumbered number) =
        left.sameUnderlying right ∧
      ∀ (first second : Checker) (span : Span),
        second.options = first.options →
        first.arena.printed = .empty → second.arena.printed = .empty →
        (∀ type, Ty.OccursIn (· ∈ [left, right]) type →
          ∀ name ∈ type.names,
            second.arena.shown name = first.arena.shown name) →
        let before := first.assign span left right
        let after := second.assign span (left.renumbered number)
          (right.renumbered number)
        after.1 = before.1 ∧
          ∃ added, before.2.diagnostics = first.diagnostics ++ added ∧
            after.2.diagnostics = second.diagnostics ++ added := by
  have apart := Ty.KeptApart.of_injOn injective
  have leftOccurs : Ty.OccursIn (· ∈ [left, right]) left :=
    .member List.mem_cons_self
  have rightOccurs : Ty.OccursIn (· ∈ [left, right]) right :=
    .member (List.mem_cons_of_mem _ List.mem_cons_self)
  refine ⟨apart.identical leftOccurs rightOccurs,
    apart.sameUnderlying leftOccurs rightOccurs, ?_⟩
  intro first second span options firstEmpty secondEmpty names
  have kept :
      KeptAlike number (Ty.OccursIn (· ∈ [left, right]))
        first.arena.printed second.arena.printed := by
    intro type _
    rw [firstEmpty, secondEmpty, Table.get?_empty, Table.get?_empty]
  exact Checker.assign_renumbered apart options kept names span leftOccurs
    rightOccurs

/-
Distinct ids have to stay distinct: types that get one id are taken for one.
-/
example :
    let merged (type : Ty) : Ty := type.renumbered fun _ => 6
    (merged Ty.bool).identical (merged Ty.string) = true ∧
      Ty.bool.identical Ty.string = false := by
  decide

/-- A flag and a text, each of a declared type with the given id. -/
def Ty.flagAndText (flagId textId : Nat) : Ty :=
  ⟨9, none, .list [⟨flagId, some ⟨"Flag"⟩, .bool⟩,
    ⟨textId, some ⟨"Text"⟩, .string⟩]⟩

/-- Any number of flags of a declared type with the given id. -/
def Ty.manyFlags (flagId : Nat) : Ty :=
  ⟨8, none, .slice ⟨flagId, some ⟨"Flag"⟩, .bool⟩⟩

/-- A run that declares the given types one after another. -/
def Checker.declarationRun (declarations : List (String × Ty)) : Checker :=
  declarations.foldl (fun checker (name, underlying) =>
    (checker.serve (.construct (.declare name underlying))).2)
    (initial .standard)

/-- Two types are declared in one order and in the other. -/
theorem Ty.independent_of_ids_declarations :
    let flagFirst :=
      Checker.declarationRun [("Flag", Ty.bool), ("Text", Ty.string)]
    let textFirst :=
      Checker.declarationRun [("Text", Ty.string), ("Flag", Ty.bool)]
    let before :=
      flagFirst.assign .unplaced (Ty.manyFlags 6) (Ty.flagAndText 6 7)
    let after :=
      textFirst.assign .unplaced (Ty.manyFlags 7) (Ty.flagAndText 7 6)
    Set.InjOn (Equiv.swap 6 7)
        (Ty.idsWithin [Ty.manyFlags 6, Ty.flagAndText 6 7]) ∧
      before.1 = false ∧ after.1 = before.1 ∧
      before.2.diagnostics.length = 1 ∧
      after.2.diagnostics = before.2.diagnostics := by
  intro flagFirst textFirst before after
  have injective : Set.InjOn (Equiv.swap 6 7)
      (Ty.idsWithin [Ty.manyFlags 6, Ty.flagAndText 6 7]) :=
    (Equiv.injective _).injOn
  have names (name : Atom) :
      textFirst.arena.shown name = flagFirst.arena.shown name := by
    let known := Arena.initial.atoms.texts
    have flagFirstAtoms : flagFirst.arena.atoms =
        ⟨(known.insert ⟨"Flag"⟩ "Flag").insert ⟨"Text"⟩ "Text"⟩ := rfl
    have textFirstAtoms : textFirst.arena.atoms =
        ⟨(known.insert ⟨"Text"⟩ "Text").insert ⟨"Flag"⟩ "Flag"⟩ := rfl
    simp only [Arena.shown, flagFirstAtoms, textFirstAtoms, AtomTable.get?,
      Table.get?_insert]
    split_ifs <;> simp_all
  have told := (Ty.independent_of_ids (Equiv.swap 6 7) (Ty.manyFlags 6)
    (Ty.flagAndText 6 7) injective).2.2 flagFirst textFirst .unplaced rfl rfl
    rfl fun _ _ name _ => names name
  rcases told with ⟨answer, added, old, new⟩
  exact ⟨injective, rfl, answer, rfl, new.trans old.symm⟩

end TypeRules
