import TypeRules.Proofs.FirstClash
import TypeRules.Proofs.Identity

/-!
# Kept spellings are true

An arena keeps every spelling that it has worked out under the id of the type
and gives it again whenever that id is to be spelled.  `Ty.rendering` is the
spelling of a type by recursion over the type alone: no table of names, and
nothing is kept.  The two agree as long as what is kept under an id is the
rendering of the type of that id.

This is an invariant of the arenas that a client brings about.  Working out a
spelling keeps nothing but renderings, and a new type has an id under which
nothing has been kept before.
-/

namespace TypeRules

/-! ## Spelling without a table -/

mutual

/--
The spelling of a type by itself: its name if it has one, and otherwise what is
spelled from its kind, its components and the names of its fields.
-/
def Ty.rendering (type : Ty) : String :=
  match type with
  | ⟨_, some name, _⟩ => name.source
  | ⟨_, none, kind⟩ => kind.rendered.spell Atom.source
termination_by structural type

/-- A kind with its components spelled. -/
def Kind.rendered (kind : Kind Ty) : Kind String :=
  match kind with
  | .bool => .bool
  | .string => .string
  | .int width => .int width
  | .uint width => .uint width
  | .float width => .float width
  | .pointer base => .pointer base.rendering
  | .array length element => .array length element.rendering
  | .slice element => .slice element.rendering
  | .struct fields => .struct (fieldRenderings fields)
  | .func params results => .func (renderings params) (renderings results)
  | .list types => .list (renderings types)
  | .untyped constant => .untyped constant
  | .unknown => .unknown
  | .any => .any
  | .void => .void
  | .variadicAny => .variadicAny
termination_by structural kind

/-- Several types, each spelled by itself. -/
def renderings (types : List Ty) : List String :=
  match types with
  | [] => []
  | type :: types => type.rendering :: renderings types
termination_by structural types

/-- Fields with their types spelled. -/
def fieldRenderings (fields : List (Field Ty)) : List (Field String) :=
  match fields with
  | [] => []
  | field :: fields => field.rendered :: fieldRenderings fields
termination_by structural fields

/-- A field with its type spelled. -/
def Field.rendered (field : Field Ty) : Field String :=
  match field with
  | ⟨name, type⟩ => ⟨name, type.rendering⟩
termination_by structural field

end

theorem Ty.rendering_of_named {type : Ty} {name : Atom}
    (named : type.name = some name) : type.rendering = name.source := by
  rcases type with ⟨id, _ | own, kind⟩
  · cases named
  · cases named
    rfl

theorem Ty.rendering_of_unnamed {type : Ty} (unnamed : type.name = none) :
    type.rendering = type.kind.rendered.spell Atom.source := by
  rcases type with ⟨id, _ | own, kind⟩
  · rfl
  · cases unnamed

theorem renderings_eq_map (types : List Ty) :
    renderings types = types.map Ty.rendering := by
  induction types with
  | nil => rfl
  | cons type types inductionHypothesis =>
      rw [renderings, inductionHypothesis, List.map_cons]

theorem fieldRenderings_eq_map (fields : List (Field Ty)) :
    fieldRenderings fields = fields.map Field.rendered := by
  induction fields with
  | nil => rfl
  | cons field fields inductionHypothesis =>
      rw [fieldRenderings, inductionHypothesis, List.map_cons]

theorem mapM_rendering (types : List Ty) :
    (types.mapM' Ty.rendering : Id (List String)) = renderings types := by
  induction types with
  | nil => rfl
  | cons type types inductionHypothesis =>
      rw [renderings, ← inductionHypothesis]
      rfl

theorem Field.mapM_rendering (fields : List (Field Ty)) :
    (fields.mapM' (Field.mapM Ty.rendering) : Id (List (Field String))) =
      fieldRenderings fields := by
  induction fields with
  | nil => rfl
  | cons field fields inductionHypothesis =>
      cases field
      rw [fieldRenderings, ← inductionHypothesis]
      rfl

/-- A kind is rendered by going through its components. -/
theorem Kind.mapM_rendering (kind : Kind Ty) :
    (kind.mapM Ty.rendering : Id (Kind String)) = kind.rendered := by
  cases kind with
  | struct fields => exact congrArg Kind.struct (Field.mapM_rendering fields)
  | func params results =>
      exact congrArg₂ Kind.func (TypeRules.mapM_rendering params)
        (TypeRules.mapM_rendering results)
  | list types => exact congrArg Kind.list (TypeRules.mapM_rendering types)
  | bool | string | int | uint | float | pointer | array | slice | untyped
  | unknown | any | void | variadicAny => rfl

@[simp]
theorem Field.rendered_name (field : Field Ty) :
    field.rendered.name = field.name := by
  cases field
  rfl

@[simp]
theorem Field.rendered_type (field : Field Ty) :
    field.rendered.type = field.type.rendering := by
  cases field
  rfl

theorem Kind.fieldNames_rendered (kind : Kind Ty) :
    kind.rendered.fieldNames = kind.fieldNames := by
  cases kind with
  | struct fields =>
      simp [Kind.rendered, Kind.fieldNames, fieldRenderings_eq_map,
        Function.comp_def]
  | bool | string | int | uint | float | pointer | array | slice | func
  | list | untyped | unknown | any | void | variadicAny => rfl

/-- Spelling the components of a kind keeps the names of its fields. -/
theorem Kind.fieldNames_spellComponents (shown : Atom → String) (kind : Kind Ty)
    (printed : Table Nat String) :
    ((kind.spellComponents shown).run printed).1.fieldNames =
      kind.fieldNames := by
  cases kind with
  | struct fields =>
      change ((fieldSpellings shown fields).run printed).1.map Field.name =
        fields.map Field.name
      induction fields generalizing printed with
      | nil => rfl
      | cons field fields inductionHypothesis =>
          cases field
          exact congrArg (List.cons _) (inductionHypothesis _)
  | bool | string | int | uint | float | pointer | array | slice | func
  | list | untyped | unknown | any | void | variadicAny => rfl

/-- A kind is spelled with the names of its own fields and no others. -/
theorem Kind.spell_congr {shown other : Atom → String} {kind : Kind String}
    (agree : ∀ name ∈ kind.fieldNames, shown name = other name) :
    kind.spell shown = kind.spell other := by
  cases kind with
  | struct fields =>
      have same :
          fields.map (Field.spell shown) = fields.map (Field.spell other) := by
        apply List.map_congr_left
        intro field member
        have names := agree field.name (List.mem_map_of_mem member)
        rw [Field.spell, Field.spell, names]
      cases fields with
      | nil => rfl
      | cons field fields => simp only [Kind.spell, spellFields, same]
  | bool | string | int | uint | float | pointer | array | slice | func
  | list | untyped | unknown | any | void | variadicAny => rfl

/-- A problem with its types spelled by themselves. -/
def Problem.rendered (problem : Problem Ty) : Problem String :=
  Id.run (problem.mapM fun type => pure type.rendering)

/-! ## Computations that spell -/

/--
Types that can be spelled from a table kept by id: an id stands for one of them
only, their components are among them, and their names are shown as they were
given.
-/
structure Ty.Legible (shown : Atom → String) (owns : Ty → Prop) : Prop where
  unique :
    ∀ left right, owns left → owns right → left.id = right.id → left = right
  components :
    ∀ type, owns type → ∀ component ∈ type.kind.components, owns component
  named :
    ∀ type, owns type → ∀ name, type.name = some name →
      shown name = name.source
  fields :
    ∀ type, owns type → ∀ name ∈ type.kind.fieldNames,
      shown name = name.source

/-- What is kept under the id of a type is the rendering of that type. -/
def KeptTruly (owns : Ty → Prop) (printed : Table Nat String) : Prop :=
  ∀ type, owns type → ∀ text,
    printed.get? type.id = some text → text = type.rendering

/-- A computation that gives a value, keeping only what is true. -/
def Renders (owns : Ty → Prop) {α : Type} (spelling : PrintM α)
    (value : α) : Prop :=
  ∀ printed, KeptTruly owns printed →
    (spelling.run printed).1 = value ∧
      KeptTruly owns (spelling.run printed).2

namespace Renders

variable {owns : Ty → Prop} {α β : Type}

theorem pure (value : α) : Renders owns (Pure.pure value) value := by
  intro printed kept
  exact ⟨rfl, kept⟩

theorem bind {first : PrintM α} {next : α → PrintM β} {value : α}
    {result : β} (firstRenders : Renders owns first value)
    (nextRenders : Renders owns (next value) result) :
    Renders owns (first >>= next) result := by
  intro printed kept
  rcases firstRenders printed kept with ⟨given, keptAfter⟩
  have followed := nextRenders (first.run printed).2 keptAfter
  rw [← given] at followed
  exact followed

variable {shown : Atom → String}

theorem remember (legible : Ty.Legible shown owns) {type : Ty}
    (owned : owns type) {spelling : PrintM String}
    (renders : Renders owns spelling type.rendering) :
    Renders owns (remember type.id spelling) type.rendering := by
  intro printed kept
  rw [remember_run]
  split
  · next text found => exact ⟨kept type owned text found, kept⟩
  · rcases renders printed kept with ⟨given, keptAfter⟩
    refine ⟨given, ?_⟩
    intro other otherOwned text found
    rw [Table.get?_insert] at found
    split_ifs at found with same
    · cases found
      rw [legible.unique other type otherOwned owned same, given]
    · exact keptAfter other otherOwned text found

theorem lockstep :
    Lockstep fun α (spelling : PrintM α) (value : Id α) =>
      Renders owns spelling value where
  pure := pure
  bind first next := bind first (next _)

/-- Spelling a type gives its rendering, whatever true spellings are kept. -/
theorem spelling (legible : Ty.Legible shown owns) {type : Ty}
    (owned : owns type) :
    Renders owns (type.spelling shown) type.rendering := by
  refine lockstep.type (Ty.spelling shown) Ty.rendering legible.components ?_
    owned
  intro type owned parts
  rw [← Kind.spellComponents_eq_mapM, Kind.mapM_rendering] at parts
  have names :
      type.kind.rendered.spell shown =
        type.kind.rendered.spell Atom.source := by
    apply Kind.spell_congr
    rw [Kind.fieldNames_rendered]
    exact legible.fields type owned
  rcases type with ⟨id, _ | name, kind⟩
  · refine remember legible owned (bind parts ?_)
    rw [names]
    exact pure _
  · refine remember legible owned ?_
    rw [legible.named _ owned name rfl]
    exact pure _

theorem problem (legible : Ty.Legible shown owns) {problem : Problem Ty}
    (owned : problem.Owned owns) :
    Renders owns (problem.mapM (Ty.spelling shown)) problem.rendered :=
  lockstep.problem fun type member => spelling legible (owned type member)

end Renders

/-! ## Arenas whose kept spellings are true -/

/-- A well-formed arena that keeps renderings only. -/
structure Arena.Truthful (arena : Arena) : Prop where
  wellFormed : arena.WellFormed
  kept : KeptTruly (· ∈ arena.types) arena.printed

theorem Arena.Knows.shown {arena : Arena} {name : Atom}
    (known : arena.Knows name) : arena.shown name = name.source := by
  rw [Arena.shown, known]
  rfl

theorem Arena.WellFormed.legible {arena : Arena}
    (wellFormed : arena.WellFormed) :
    Ty.Legible arena.shown (· ∈ arena.types) where
  unique left right leftMember rightMember :=
    wellFormed.identified left right (.member leftMember) (.member rightMember)
  components type member := (wellFormed.fits type member).components
  named type member name named :=
    (wellFormed.named type member name named).2.shown
  fields type member name field :=
    ((wellFormed.fits type member).known name field).shown

namespace Arena.Truthful

variable {arena : Arena}

theorem initial : Arena.initial.Truthful where
  wellFormed := .initial
  kept type _ text found := by
    cases found

/-- What an arena spells a type as is the rendering of the type. -/
theorem print_eq (truthful : arena.Truthful) {type : Ty}
    (member : type ∈ arena.types) :
    (arena.print type).1 = type.rendering :=
  (Renders.spelling truthful.wellFormed.legible member _ truthful.kept).1

/-- A new type has an id under which nothing is kept. -/
theorem push (truthful : arena.Truthful) {after : Arena} {type : Ty}
    (wellFormed : after.WellFormed)
    (types : after.types = arena.types.push type)
    (fresh : type.id = arena.nextId) (printed : after.printed = arena.printed) :
    after.Truthful := by
  refine ⟨wellFormed, ?_⟩
  intro other member text found
  rw [printed] at found
  rw [types] at member
  rcases Array.mem_push.mp member with older | rfl
  · exact truthful.kept other older text found
  · have below := truthful.wellFormed.printed _ text found
    rw [fresh] at below
    exact (Nat.lt_irrefl _ below).elim

end Arena.Truthful

theorem Arena.unnamed_printed (arena : Arena) (kind : Kind Ty) :
    (arena.unnamed kind).2.printed = arena.printed := by
  unfold Arena.unnamed
  split
  · rfl
  · split <;> rfl

/-- An unnamed type is there already, or it is added under the next id. -/
theorem Arena.unnamed_cases (arena : Arena) (kind : Kind Ty) :
    (arena.unnamed kind).2 = arena ∨
      (arena.unnamed kind).2.types =
        arena.types.push ⟨arena.nextId, none, kind⟩ := by
  unfold Arena.unnamed
  split
  · exact Or.inr rfl
  · split
    · exact Or.inl rfl
    · exact Or.inr rfl

theorem Arena.Move.truthful {before after : Arena} (move : before.Move after)
    (truthful : before.Truthful) : after.Truthful := by
  have wellFormed := move.wellFormed truthful.wellFormed
  cases move with
  | @print type member =>
      exact ⟨wellFormed,
        (Renders.spelling truthful.wellFormed.legible member _
          truthful.kept).2⟩
  | intern text => exact ⟨wellFormed, truthful.kept⟩
  | @unnamed kind fits proper =>
      rcases before.unnamed_cases kind with same | pushed
      · rw [same]
        exact truthful
      · exact truthful.push wellFormed pushed rfl (before.unnamed_printed kind)
  | declare member nameable known =>
      exact truthful.push wellFormed rfl rfl rfl

theorem Arena.Moves.truthful {before after : Arena}
    (moves : before.Moves after) (truthful : before.Truthful) :
    after.Truthful := by
  induction moves with
  | refl => exact truthful
  | tail _ move inductionHypothesis =>
      exact move.truthful inductionHypothesis

theorem Checker.serve_truthful {checker : Checker}
    (truthful : checker.arena.Truthful) (request : Request)
    (known : ∀ type ∈ request.operands, type ∈ checker.arena.types) :
    (checker.serve request).2.arena.Truthful :=
  (serve_yields truthful.wellFormed request known).moves.truthful truthful

/-- Every arena that a client brings about keeps renderings only. -/
theorem Checker.Reachable.truthful {checker : Checker}
    (reachable : checker.Reachable) : checker.arena.Truthful := by
  induction reachable with
  | initial options => exact Arena.Truthful.initial
  | serve request _ known inductionHypothesis =>
      exact serve_truthful inductionHypothesis request known

/-! ## Diagnostics -/

/-- A problem at a place, its types spelled by themselves. -/
def Problem.finding (span : Span) (problem : Problem Ty) : Diagnostic :=
  ⟨problem.rendered, span⟩

namespace Checker

theorem report_finding {checker : Checker}
    (truthful : checker.arena.Truthful) (span : Span) {problem : Problem Ty}
    (owned : problem.Owned (· ∈ checker.arena.types)) :
    (checker.report span problem).diagnostics =
      checker.diagnostics ++ [problem.finding span] := by
  have spelled :=
    (Renders.problem truthful.wellFormed.legible owned _ truthful.kept).1
  rw [report_diagnostics_eq, diagnosticOf, Problem.finding, spelled]

/-- Problems are reported in order, each in the words of the renderings. -/
theorem reportAll_findings {checker : Checker}
    (truthful : checker.arena.Truthful) (span : Span)
    {problems : List (Problem Ty)}
    (owned :
      ∀ problem ∈ problems, problem.Owned (· ∈ checker.arena.types)) :
    (checker.reportAll span problems).diagnostics =
      checker.diagnostics ++ problems.map (Problem.finding span) := by
  induction problems generalizing checker with
  | nil => simp [reportAll]
  | cons problem problems inductionHypothesis =>
      rw [List.forall_mem_cons] at owned
      have moves := Checker.moves_report span owned.1
      have later := @inductionHypothesis (checker.report span problem)
        (moves.truthful truthful) owned.2
      rw [report_finding truthful span owned.1, List.append_assoc] at later
      exact later

theorem conclude_findings {checker : Checker}
    (truthful : checker.arena.Truthful) (span : Span) {verdict : Verdict}
    (owned : verdict.Owned (· ∈ checker.arena.types)) :
    (checker.conclude span verdict).2.diagnostics =
      checker.diagnostics ++ verdict.problems.map (Problem.finding span) := by
  rw [conclude, realize_diagnostics]
  exact reportAll_findings truthful span owned.problems

end Checker

end TypeRules
