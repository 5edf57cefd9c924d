import Mathlib.Data.List.Nodup
import Mathlib.Logic.Relation
import TypeRules.Arena.Construct
import TypeRules.Proofs.Traversal

/-!
# What holds of an arena throughout

`Arena.WellFormed` collects what every other part of the checker relies on:
ids count up without gaps, types are built from older types, the table of
shared types and the unnamed types that can be shared are the same thing seen
from two sides, and every name can be shown.

Whatever is asked of an arena, it only ever changes by moves of four sorts.  It
works out a spelling, learns a name, makes an unnamed type, or declares a type.
`Arena.Move` says what each move demands, and each is shown to keep the arena
well formed.
-/

namespace TypeRules

/-! ## Names -/

namespace AtomTable

/-- Every known atom is shown with the text it was made from. -/
def Faithful (table : AtomTable) : Prop :=
  ∀ atom text, table.get? atom = some text → text = atom.source

theorem get?_intern (table : AtomTable) (text : String) (atom : Atom) :
    (table.intern text).2.get? atom =
      if atom = ⟨text⟩ then some ((table.get? atom).getD text)
      else table.get? atom := by
  cases known : table.texts.get? ⟨text⟩ with
  | some shown =>
      have unchanged : (table.intern text).2 = table := by
        simp [intern, insertIfAbsent, contains, Table.contains, known]
      rw [unchanged]
      split_ifs with same
      · subst same
        simp [get?, known]
      · rfl
  | none =>
      have inserted :
          (table.intern text).2 = ⟨table.texts.insert ⟨text⟩ text⟩ := by
        simp [intern, insertIfAbsent, contains, Table.contains, known, insert]
      rw [inserted, get?, Table.get?_insert]
      split_ifs with same
      · subst same
        simp [get?, known]
      · rfl

theorem get?_intern_of_get? {table : AtomTable} {atom : Atom}
    {shown : String} (known : table.get? atom = some shown)
    (text : String) :
    (table.intern text).2.get? atom = some shown := by
  rw [get?_intern, known]
  split_ifs <;> rfl

theorem Faithful.intern {table : AtomTable} (faithful : table.Faithful)
    (text : String) : (table.intern text).2.Faithful := by
  intro atom shown known
  rw [get?_intern] at known
  split_ifs at known with same
  · subst same
    cases before : table.get? ⟨text⟩ with
    | none =>
        rw [before] at known
        exact (Option.some.inj known).symm
    | some old =>
        rw [before] at known
        rw [← Option.some.inj known]
        exact faithful _ _ before
  · exact faithful _ _ known

theorem Faithful.get?_intern_self {table : AtomTable}
    (faithful : table.Faithful) (text : String) :
    (table.intern text).2.get? ⟨text⟩ = some text := by
  rw [get?_intern, if_pos rfl]
  cases before : table.get? ⟨text⟩ with
  | none => rfl
  | some old => exact congrArg some (faithful _ _ before)

theorem Faithful.empty : AtomTable.empty.Faithful := by
  intro atom text known
  cases known

theorem Faithful.internAll {table : AtomTable} (faithful : table.Faithful)
    (texts : List String) : (table.internAll texts).Faithful := by
  induction texts generalizing table with
  | nil => exact faithful
  | cons text texts inductionHypothesis =>
      exact inductionHypothesis (faithful.intern text)

theorem get?_internAll_of_get? {table : AtomTable} {atom : Atom}
    {shown : String} (known : table.get? atom = some shown)
    (texts : List String) :
    (table.internAll texts).get? atom = some shown := by
  induction texts generalizing table with
  | nil => exact known
  | cons text texts inductionHypothesis =>
      exact inductionHypothesis (get?_intern_of_get? known text)

theorem Faithful.get?_internAll_of_mem {table : AtomTable}
    (faithful : table.Faithful) {texts : List String} {text : String}
    (member : text ∈ texts) :
    (table.internAll texts).get? ⟨text⟩ = some text := by
  induction texts generalizing table with
  | nil => cases member
  | cons first texts inductionHypothesis =>
      rcases List.mem_cons.mp member with rfl | later
      · exact get?_internAll_of_get? (faithful.get?_intern_self text) texts
      · exact inductionHypothesis (faithful.intern first) later

end AtomTable

/-! ## Kinds -/

namespace Kind

variable {τ : Type}

/-- The names of the fields of a structure, in order. -/
def fieldNames : Kind τ → List Atom
  | .struct fields => fields.map Field.name
  | _ => []

/-- Whether a numeric kind has one of the widths there are. -/
def hasSupportedWidth : Kind τ → Bool
  | .int width | .uint width => isIntWidth width
  | .float width => isFloatWidth width
  | _ => true

/-- Whether an unnamed type of this kind is there from the start. -/
def isIntrinsic : Kind τ → Bool
  | .bool | .string | .unknown | .any | .void | .variadicAny => true
  | _ => false

theorem plain_of_isIntrinsic {kind : Kind τ}
    (intrinsic : kind.isIntrinsic = true) :
    kind.components = [] ∧ kind.fieldNames = [] ∧
      kind.hasSupportedWidth = true := by
  cases kind <;>
    simp_all [isIntrinsic, components, fieldNames, hasSupportedWidth]

theorem isIntrinsic_of_isSentinel {kind : Kind τ}
    (sentinel : kind.isSentinel = true) : kind.isIntrinsic = true := by
  cases kind <;> simp_all [isSentinel, isIntrinsic]

theorem canBeNamed_iff {kind : Kind Ty} :
    kind.canBeNamed = true ↔
      kind.isSentinel = false ∧ kind.constant? = none ∧
        ∀ types, kind ≠ .list types := by
  cases kind <;> simp [canBeNamed, isSentinel, constant?]

end Kind

/-- The kinds that a key stands for; components count by their ids. -/
def InternKey.Spells : InternKey → Kind Ty → Prop
  | .int width, kind => kind = .int width
  | .uint width, kind => kind = .uint width
  | .float width, kind => kind = .float width
  | .pointer id, kind => ∃ base, kind = .pointer base ∧ base.id = id
  | .slice id, kind => ∃ element, kind = .slice element ∧ element.id = id
  | .array length id, kind =>
      ∃ element, kind = .array length element ∧ element.id = id

theorem Kind.internKey?_eq_some_iff {kind : Kind Ty} {key : InternKey} :
    kind.internKey? = some key ↔ key.Spells kind := by
  cases kind <;> cases key <;>
    simp [Kind.internKey?, InternKey.Spells]

theorem InternKey.Spells.unique {key other : InternKey} {kind : Kind Ty}
    (spells : key.Spells kind) (spelled : other.Spells kind) :
    key = other := by
  rw [← Kind.internKey?_eq_some_iff] at spells spelled
  exact Option.some.inj (spells.symm.trans spelled)

theorem InternKey.Spells.isIntrinsic {key : InternKey} {kind : Kind Ty}
    (spells : key.Spells kind) : kind.isIntrinsic = false := by
  rw [← Kind.internKey?_eq_some_iff] at spells
  cases kind <;> simp_all [Kind.internKey?, Kind.isIntrinsic]

/-! ## Well-formed arenas -/

/-- The arena shows an atom with the text it was made from. -/
def Arena.Knows (arena : Arena) (name : Atom) : Prop :=
  arena.atoms.get? name = some name.source

/-- What an arena demands of the kind of a type. -/
structure Kind.Fits (arena : Arena) (kind : Kind Ty) : Prop where
  components : ∀ component ∈ kind.components, component ∈ arena.types
  width : kind.hasSupportedWidth = true
  distinct : kind.fieldNames.Nodup
  known : ∀ name ∈ kind.fieldNames, arena.Knows name

/-- What holds of an arena at any time. -/
structure Arena.WellFormed (arena : Arena) : Prop where
  ids : arena.types.toList.map Ty.id = List.range arena.nextId
  fits : ∀ type ∈ arena.types, type.kind.Fits arena
  descends :
    ∀ type ∈ arena.types, ∀ component ∈ type.kind.components,
      component.id < type.id
  shared :
    ∀ key type,
      arena.interned.get? key = some type ↔
        type ∈ arena.types ∧ type.name = none ∧ key.Spells type.kind
  intrinsics : ∀ type ∈ Ty.intrinsics, type ∈ arena.types
  intrinsic :
    ∀ type ∈ arena.types,
      type.name = none → type.kind.isIntrinsic = true →
        type ∈ Ty.intrinsics
  named :
    ∀ type ∈ arena.types, ∀ name, type.name = some name →
      type.kind.canBeNamed = true ∧ arena.Knows name
  faithful : arena.atoms.Faithful
  printed :
    ∀ id text, arena.printed.get? id = some text → id < arena.nextId

theorem Kind.Fits.mono {before after : Arena} {kind : Kind Ty}
    (fits : kind.Fits before)
    (types : ∀ type ∈ before.types, type ∈ after.types)
    (names : ∀ name, before.Knows name → after.Knows name) :
    kind.Fits after where
  components component member := types component (fits.components component member)
  width := fits.width
  distinct := fits.distinct
  known name member := names name (fits.known name member)

theorem Kind.Fits.of_isIntrinsic {kind : Kind Ty}
    (intrinsic : kind.isIntrinsic = true) (arena : Arena) :
    kind.Fits arena := by
  rcases Kind.plain_of_isIntrinsic intrinsic with
    ⟨noComponents, noFields, width⟩
  constructor
  · simp [noComponents]
  · exact width
  · simp [noFields]
  · simp [noFields]

theorem Ty.name_isIntrinsic_of_mem_intrinsics {type : Ty}
    (member : type ∈ Ty.intrinsics) :
    type.name = none ∧ type.kind.isIntrinsic = true := by
  simp only [Ty.intrinsics, List.mem_cons, List.not_mem_nil, or_false]
    at member
  rcases member with rfl | rfl | rfl | rfl | rfl | rfl <;> exact ⟨rfl, rfl⟩

theorem Ty.intrinsics_existsUnique {kind : Kind Ty}
    (intrinsic : kind.isIntrinsic = true) :
    ∃! type, type ∈ Ty.intrinsics ∧ type.kind = kind := by
  have listed :
      ∃ type ∈ Ty.intrinsics, type.kind = kind ∧
        ∀ other ∈ Ty.intrinsics, other.kind = kind → other = type := by
    cases kind <;>
      simp_all [Kind.isIntrinsic, Ty.intrinsics, Ty.unknown, Ty.any, Ty.void,
        Ty.variadicAny, Ty.bool, Ty.string]
  rcases listed with ⟨type, member, kinds, unique⟩
  exact ⟨type, ⟨member, kinds⟩, fun other found => unique other found.1 found.2⟩

namespace Arena.WellFormed

variable {arena : Arena}

theorem id_lt (wellFormed : arena.WellFormed) {type : Ty}
    (member : type ∈ arena.types) : type.id < arena.nextId := by
  have listed : type.id ∈ arena.types.toList.map Ty.id :=
    List.mem_map_of_mem (Array.mem_toList_iff.mpr member)
  rw [wellFormed.ids] at listed
  exact List.mem_range.mp listed

theorem mem_initial_types {type : Ty} :
    type ∈ Arena.initial.types ↔ type ∈ Ty.intrinsics :=
  List.mem_toArray

theorem initial : Arena.initial.WellFormed where
  ids := rfl
  fits type member :=
    .of_isIntrinsic
      (Ty.name_isIntrinsic_of_mem_intrinsics
        (mem_initial_types.mp member)).2 _
  descends type member component below := by
    have intrinsic :=
      (Ty.name_isIntrinsic_of_mem_intrinsics (mem_initial_types.mp member)).2
    rw [(Kind.plain_of_isIntrinsic intrinsic).1] at below
    cases below
  shared key type := by
    constructor
    · intro found
      cases found
    · rintro ⟨member, -, spells⟩
      have intrinsic :=
        (Ty.name_isIntrinsic_of_mem_intrinsics
          (mem_initial_types.mp member)).2
      rw [spells.isIntrinsic] at intrinsic
      cases intrinsic
  intrinsics type member := mem_initial_types.mpr member
  intrinsic type member _ _ := mem_initial_types.mp member
  named type member name named := by
    rw [(Ty.name_isIntrinsic_of_mem_intrinsics
      (mem_initial_types.mp member)).1] at named
    cases named
  faithful := AtomTable.Faithful.empty.internAll _
  printed id text kept := by
    cases kept

/-! ### What a well-formed arena has of each sort -/

/-- Unnamed types that one key stands for are one type. -/
theorem eq_of_spells (wellFormed : arena.WellFormed) {left right : Ty}
    (leftMember : left ∈ arena.types) (rightMember : right ∈ arena.types)
    (leftUnnamed : left.name = none) (rightUnnamed : right.name = none)
    {key : InternKey} (leftSpelled : key.Spells left.kind)
    (rightSpelled : key.Spells right.kind) : left = right := by
  have leftFound :=
    (wellFormed.shared key left).mpr ⟨leftMember, leftUnnamed, leftSpelled⟩
  have rightFound :=
    (wellFormed.shared key right).mpr
      ⟨rightMember, rightUnnamed, rightSpelled⟩
  exact Option.some.inj (leftFound.symm.trans rightFound)

theorem intrinsic_existsUnique (wellFormed : arena.WellFormed)
    {kind : Kind Ty} (intrinsic : kind.isIntrinsic = true) :
    ∃! type, type ∈ arena.types ∧ type.name = none ∧ type.kind = kind := by
  rcases Ty.intrinsics_existsUnique intrinsic with
    ⟨type, ⟨listed, kinds⟩, unique⟩
  have unnamed := (Ty.name_isIntrinsic_of_mem_intrinsics listed).1
  refine ⟨type, ⟨wellFormed.intrinsics type listed, unnamed, kinds⟩, ?_⟩
  rintro other ⟨member, otherUnnamed, rfl⟩
  exact unique other
    ⟨wellFormed.intrinsic other member otherUnnamed intrinsic, rfl⟩

theorem name_eq_none_of_isSentinel (wellFormed : arena.WellFormed)
    {type : Ty} (member : type ∈ arena.types)
    (sentinel : type.kind.isSentinel = true) : type.name = none := by
  cases named : type.name with
  | none => rfl
  | some name =>
      have nameable := (wellFormed.named type member name named).1
      rw [(Kind.canBeNamed_iff.mp nameable).1] at sentinel
      cases sentinel

theorem sentinel_existsUnique (wellFormed : arena.WellFormed)
    {kind : Kind Ty} (sentinel : kind.isSentinel = true) :
    ∃! type, type ∈ arena.types ∧ type.kind = kind := by
  rcases wellFormed.intrinsic_existsUnique
      (Kind.isIntrinsic_of_isSentinel sentinel) with
    ⟨type, ⟨member, -, kinds⟩, unique⟩
  refine ⟨type, ⟨member, kinds⟩, ?_⟩
  rintro other ⟨otherMember, rfl⟩
  have unnamed := wellFormed.name_eq_none_of_isSentinel otherMember sentinel
  exact unique other ⟨otherMember, unnamed, rfl⟩

theorem exists_of_printed (wellFormed : arena.WellFormed) {id : Nat}
    {text : String} (kept : arena.printed.get? id = some text) :
    ∃ type ∈ arena.types, type.id = id := by
  have listed : id ∈ arena.types.toList.map Ty.id := by
    rw [wellFormed.ids]
    exact List.mem_range.mpr (wellFormed.printed id text kept)
  rcases List.mem_map.mp listed with ⟨type, member, rfl⟩
  exact ⟨type, Array.mem_toList_iff.mp member, rfl⟩

/-! ### Growth -/

/-- Adding a type that fits keeps an arena well formed. -/
theorem push (wellFormed : arena.WellFormed) {name : Option Atom}
    {kind : Kind Ty} {interned : Table InternKey Ty}
    (fits : kind.Fits arena)
    (proper : name = none → kind.isIntrinsic = false)
    (nameable :
      ∀ atom, name = some atom →
        kind.canBeNamed = true ∧ arena.Knows atom)
    (shared :
      ∀ key type,
        interned.get? key = some type ↔
          type ∈ arena.types.push ⟨arena.nextId, name, kind⟩ ∧
            type.name = none ∧ key.Spells type.kind) :
    Arena.WellFormed
      { arena with
        types := arena.types.push ⟨arena.nextId, name, kind⟩
        interned } where
  ids := by
    simp only [Array.toList_push, List.map_append, wellFormed.ids]
    simp [Arena.nextId, List.range_succ]
  fits type member := by
    have before : type.kind.Fits arena := by
      rcases Array.mem_push.mp member with member | rfl
      · exact wellFormed.fits type member
      · exact fits
    apply before.mono
    · intro older member
      exact Array.mem_push.mpr (Or.inl member)
    · intro atom known
      exact known
  descends type member component below := by
    rcases Array.mem_push.mp member with member | rfl
    · exact wellFormed.descends type member component below
    · exact wellFormed.id_lt (fits.components component below)
  shared := shared
  intrinsics type member :=
    Array.mem_push.mpr (Or.inl (wellFormed.intrinsics type member))
  intrinsic type member unnamed intrinsic := by
    rcases Array.mem_push.mp member with member | rfl
    · exact wellFormed.intrinsic type member unnamed intrinsic
    · rw [proper unnamed] at intrinsic
      cases intrinsic
  named type member atom named := by
    rcases Array.mem_push.mp member with member | rfl
    · exact wellFormed.named type member atom named
    · exact nameable atom named
  faithful := wellFormed.faithful
  printed id text kept := by
    have before := wellFormed.printed id text kept
    rw [Arena.nextId, Array.size_push]
    exact Nat.lt_succ_of_lt before

/-! ## The moves of an arena -/

theorem fresh (wellFormed : arena.WellFormed) {name : Option Atom}
    {kind : Kind Ty} (fits : kind.Fits arena)
    (proper : name = none → kind.isIntrinsic = false)
    (nameable :
      ∀ atom, name = some atom →
        kind.canBeNamed = true ∧ arena.Knows atom)
    (apart : name = none → kind.internKey? = none) :
    (arena.fresh name kind).2.WellFormed := by
  apply wellFormed.push fits proper nameable
  intro key type
  rw [wellFormed.shared, Array.mem_push]
  constructor
  · rintro ⟨member, rest⟩
    exact ⟨Or.inl member, rest⟩
  · rintro ⟨member | rfl, unnamed, spells⟩
    · exact ⟨member, unnamed, spells⟩
    · rw [← Kind.internKey?_eq_some_iff, apart unnamed] at spells
      cases spells

theorem unnamed (wellFormed : arena.WellFormed) {kind : Kind Ty}
    (fits : kind.Fits arena) (proper : kind.isIntrinsic = false) :
    (arena.unnamed kind).2.WellFormed := by
  unfold Arena.unnamed
  split
  · next apart =>
      apply wellFormed.fresh fits (fun _ => proper)
      · rintro atom ⟨⟩
      · exact fun _ => apart
  · next key spelled =>
      split
      · exact wellFormed
      · next absent =>
          have spells := Kind.internKey?_eq_some_iff.mp spelled
          apply wellFormed.push fits (fun _ => proper)
          · rintro atom ⟨⟩
          · intro other type
            rw [Table.get?_insert, Array.mem_push]
            -- Under the new key there was nothing, so no older unnamed type
            -- can be one that the key stands for.
            split_ifs with same
            · subst same
              constructor
              · rintro ⟨⟩
                exact ⟨Or.inr rfl, rfl, spells⟩
              · rintro ⟨member | rfl, unnamed, others⟩
                · have found :=
                    (wellFormed.shared _ _).mpr ⟨member, unnamed, others⟩
                  rw [absent] at found
                  cases found
                · rfl
            · have before := wellFormed.shared other type
              constructor
              · intro found
                rcases before.mp found with ⟨member, rest⟩
                exact ⟨Or.inl member, rest⟩
              · rintro ⟨member | rfl, unnamed, others⟩
                · exact before.mpr ⟨member, unnamed, others⟩
                · exact absurd (others.unique spells) same

theorem declare (wellFormed : arena.WellFormed) {name : Atom}
    {underlying : Ty} (member : underlying ∈ arena.types)
    (nameable : underlying.kind.canBeNamed = true)
    (known : arena.Knows name) :
    (arena.fresh (some name) underlying.kind).2.WellFormed := by
  apply wellFormed.fresh (wellFormed.fits underlying member)
  · rintro ⟨⟩
  · rintro atom ⟨⟩
    exact ⟨nameable, known⟩
  · rintro ⟨⟩

theorem intern (wellFormed : arena.WellFormed) (text : String) :
    (arena.intern text).2.WellFormed := by
  have keeps (name : Atom) (known : arena.Knows name) :
      (arena.intern text).2.Knows name :=
    AtomTable.get?_intern_of_get? known text
  refine
    { wellFormed with
      fits := ?_
      named := ?_
      faithful := wellFormed.faithful.intern text }
  · intro type member
    exact (wellFormed.fits type member).mono (fun _ member => member) keeps
  · intro type member name named
    rcases wellFormed.named type member name named with ⟨nameable, known⟩
    exact ⟨nameable, keeps name known⟩

end Arena.WellFormed

/-! ## Kept spellings -/

theorem remember_run (id : Nat) (spelling : PrintM String)
    (printed : Table Nat String) :
    (remember id spelling).run printed =
      match printed.get? id with
      | some text => (text, printed)
      | none =>
          ((spelling.run printed).1,
            (spelling.run printed).2.insert id (spelling.run printed).1) := by
  rw [remember, StateT.run_bind, StateT.run_get]
  cases kept : printed.get? id with
  | some text =>
      simp only [pure_bind, kept]
      rfl
  | none =>
      simp only [pure_bind, kept]
      rfl

/-- A computation only keeps spellings under ids with a property. -/
def KeepsUnder (allowed : Nat → Prop) {α : Type} (spelling : PrintM α) :
    Prop :=
  ∀ printed : Table Nat String,
    (∀ id text, printed.get? id = some text → allowed id) →
      ∀ id text, (spelling.run printed).2.get? id = some text → allowed id

namespace KeepsUnder

variable {allowed : Nat → Prop} {α β : Type}

theorem pure (value : α) : KeepsUnder allowed (Pure.pure value : PrintM α) :=
  fun _ kept => kept

theorem bind {first : PrintM α} {next : α → PrintM β}
    (firstKeeps : KeepsUnder allowed first)
    (nextKeeps : ∀ value, KeepsUnder allowed (next value)) :
    KeepsUnder allowed (first >>= next) :=
  fun printed kept => nextKeeps _ _ (firstKeeps printed kept)

theorem remember {id : Nat} {spelling : PrintM String} (own : allowed id)
    (keeps : KeepsUnder allowed spelling) :
    KeepsUnder allowed (remember id spelling) := by
  intro printed kept other text found
  rw [remember_run] at found
  split at found
  · exact kept other text found
  · rw [Table.get?_insert] at found
    split_ifs at found with same
    · exact same ▸ own
    · exact keeps printed kept other text found

theorem lockstep :
    Lockstep fun α (spelling : PrintM α) (_ : PrintM α) =>
      KeepsUnder allowed spelling where
  pure := pure
  bind := bind

/-- A type is spelled with spellings of its own components only. -/
theorem spelling {shown : Atom → String} {owns : Ty → Prop}
    (own : ∀ type, owns type → allowed type.id)
    (closed :
      ∀ type, owns type → ∀ component ∈ type.kind.components,
        owns component)
    {type : Ty} (owned : owns type) :
    KeepsUnder allowed (type.spelling shown) := by
  refine lockstep.type (Ty.spelling shown) (Ty.spelling shown) closed ?_ owned
  intro type owned parts
  rw [← Kind.spellComponents_eq_mapM] at parts
  rcases type with ⟨id, _ | name, kind⟩
  · exact remember (own _ owned) (bind parts fun _ => pure _)
  · exact remember (own _ owned) (pure _)

end KeepsUnder

theorem Arena.WellFormed.print {arena : Arena}
    (wellFormed : arena.WellFormed) {type : Ty}
    (member : type ∈ arena.types) :
    (arena.print type).2.WellFormed := by
  have keeps :
      KeepsUnder (· < arena.nextId) (type.spelling arena.shown) :=
    KeepsUnder.spelling (fun _ member => wellFormed.id_lt member)
      (fun type member => (wellFormed.fits type member).components) member
  refine { wellFormed with fits := ?_, printed := ?_ }
  · intro type member
    exact (wellFormed.fits type member).mono (fun _ member => member)
      fun _ known => known
  · exact keeps arena.printed wellFormed.printed

/-! ## Moves -/

/-- The ways in which an arena changes, each with what it demands. -/
inductive Arena.Move : Arena → Arena → Prop where
  | print {arena : Arena} {type : Ty} (member : type ∈ arena.types) :
      Move arena (arena.print type).2
  | intern {arena : Arena} (text : String) :
      Move arena (arena.intern text).2
  | unnamed {arena : Arena} {kind : Kind Ty} (fits : kind.Fits arena)
      (proper : kind.isIntrinsic = false) :
      Move arena (arena.unnamed kind).2
  | declare {arena : Arena} {name : Atom} {underlying : Ty}
      (member : underlying ∈ arena.types)
      (nameable : underlying.kind.canBeNamed = true)
      (known : arena.Knows name) :
      Move arena (arena.fresh (some name) underlying.kind).2

/-- One arena comes of another by moves. -/
def Arena.Moves : Arena → Arena → Prop :=
  Relation.ReflTransGen Arena.Move

theorem Arena.Move.wellFormed {before after : Arena}
    (move : before.Move after) (wellFormed : before.WellFormed) :
    after.WellFormed := by
  cases move with
  | print member => exact wellFormed.print member
  | intern text => exact wellFormed.intern text
  | unnamed fits proper => exact wellFormed.unnamed fits proper
  | declare member nameable known =>
      exact wellFormed.declare member nameable known

theorem Arena.Moves.wellFormed {before after : Arena}
    (moves : before.Moves after) (wellFormed : before.WellFormed) :
    after.WellFormed := by
  induction moves with
  | refl => exact wellFormed
  | tail _ move inductionHypothesis =>
      exact move.wellFormed inductionHypothesis

theorem Arena.unnamed_types_grow (arena : Arena) (kind : Kind Ty) :
    arena.types.toList <+: (arena.unnamed kind).2.types.toList := by
  unfold Arena.unnamed
  split
  · simp [Arena.fresh]
  · split
    · exact List.prefix_rfl
    · simp [Arena.fresh]

/-- A type once made stays where it is. -/
theorem Arena.Move.types_grow {before after : Arena}
    (move : before.Move after) :
    before.types.toList <+: after.types.toList := by
  cases move with
  | print => exact List.prefix_rfl
  | intern => exact List.prefix_rfl
  | unnamed => exact before.unnamed_types_grow _
  | declare => simp [Arena.fresh]

theorem Arena.Moves.types_grow {before after : Arena}
    (moves : before.Moves after) :
    before.types.toList <+: after.types.toList := by
  induction moves with
  | refl => exact List.prefix_rfl
  | tail _ move inductionHypothesis =>
      exact inductionHypothesis.trans move.types_grow

theorem Arena.Moves.mem_types {before after : Arena}
    (moves : before.Moves after) {type : Ty}
    (member : type ∈ before.types) : type ∈ after.types :=
  Array.mem_toList_iff.mp
    (moves.types_grow.subset (Array.mem_toList_iff.mpr member))

end TypeRules
