import Mathlib.Data.List.Induction
import TypeRules.Checker
import TypeRules.Proofs.ArenaInvariant
import TypeRules.Proofs.Provenance

/-!
# Runs

A client of the checker makes one request after another.  It asks for types to
be constructed, for names, spellings and verdicts, or goes on with a checker of
other options over the same arena.  A request may only refer to types that the
arena has made; `Checker.serve_yields` shows that a client never gets hold of
any others.  The checkers reached in this way are the `Checker.Reachable` ones.

Each request changes the arena by moves alone, so that every arena ever reached
is well formed.
-/

namespace TypeRules

/-! ## Requests -/

/-- A type to be made. -/
inductive Construction where
  | int (width : Nat)
  | uint (width : Nat)
  | float (width : Nat)
  | pointer (base : Ty)
  | slice (element : Ty)
  | array (length : Nat) (element : Ty)
  | nil
  | struct (fields : List (String × Ty))
  | func (params results : List Ty)
  | list (types : List Ty)
  | literal (text : String)
  | integer (value : Int128)
  | floating (value : Binary64)
  | declare (name : String) (underlying : Ty)

def Construction.operands : Construction → List Ty
  | .pointer base => [base]
  | .slice element => [element]
  | .array _ element => [element]
  | .struct fields => fields.map Prod.snd
  | .func params results => params ++ results
  | .list types => types
  | .declare _ underlying => [underlying]
  | _ => []

/-- Make a type, unless that fails. -/
def Arena.construct (arena : Arena) : Construction → Arena.Made
  | .int width => arena.int width
  | .uint width => arena.uint width
  | .float width => arena.float width
  | .pointer base => made (arena.pointerTo base)
  | .slice element => made (arena.unnamed (.slice element))
  | .array length element => made (arena.unnamed (.array length element))
  | .nil => made arena.nil
  | .struct fields => arena.struct fields
  | .func params results => made (arena.unnamed (.func params results))
  | .list types => made (arena.unnamed (.list types))
  | .literal text => arena.literal text
  | .integer value => made (arena.constant (.ofInt128 value))
  | .floating value => arena.floating value
  | .declare name underlying => arena.declare name underlying

/-- What a client can ask for. -/
inductive Request where
  | construct (construction : Construction)
  | predeclared (name : String)
  | intern (text : String)
  | print (type : Ty)
  | assign (span : Span) (dest source : Ty)
  | binary (span : Span) (op : BinaryOp) (left right : Ty)
  | unary (span : Span) (op : UnaryOp) (operand : Ty)
  | call (span : Span) (callee : Ty) (args : List Ty)
  /-- Take the diagnostics away. -/
  | take
  /-- Go on with a new checker over the same arena. -/
  | renew (options : Options)

def Request.operands : Request → List Ty
  | .construct construction => construction.operands
  | .print type => [type]
  | .assign _ dest source => [dest, source]
  | .binary _ _ left right => [left, right]
  | .unary _ _ operand => [operand]
  | .call _ callee args => callee :: args
  | .predeclared _ | .intern _ | .take | .renew _ => []

/-- What a client gets. -/
inductive Reply where
  | made (result : Except ConstructionError Ty)
  | found (result : Option Ty)
  | atom (result : Atom)
  | text (result : String)
  | accepted (result : Bool)
  | type (result : Ty)
  | taken (result : List Diagnostic)
  | renewed

/-- The types that a reply hands out. -/
def Reply.types : Reply → List Ty
  | .made (.ok result) => [result]
  | .found (some result) => [result]
  | .type result => [result]
  | _ => []

namespace Checker

/-- Go on with what an operation has made of the arena. -/
def withArena {α : Type} (checker : Checker) (result : α × Arena) :
    α × Checker :=
  (result.1, { checker with arena := result.2 })

/-- Do what a client asks for. -/
def serve (checker : Checker) : Request → Reply × Checker
  | .construct construction =>
      (checker.withArena (checker.arena.construct construction)).map .made id
  | .predeclared name =>
      match checker.arena.predeclared? name with
      | some result =>
          (checker.withArena result).map (fun type => .found (some type)) id
      | none => (.found none, checker)
  | .intern text =>
      (checker.withArena (checker.arena.intern text)).map .atom id
  | .print type => (checker.print type).map .text id
  | .assign span dest source =>
      (checker.assign span dest source).map .accepted id
  | .binary span op left right =>
      (checker.binary span op left right).map .type id
  | .unary span op operand => (checker.unary span op operand).map .type id
  | .call span callee args => (checker.call span callee args).map .type id
  | .take => checker.takeDiagnostics.map .taken id
  | .renew options => (.renewed, ⟨checker.arena, options, []⟩)

/-- The checkers that a client can bring about. -/
inductive Reachable : Checker → Prop where
  | initial (options : Options) : Reachable (.initial options)
  | serve {checker : Checker} (request : Request)
      (reachable : Reachable checker)
      (known : ∀ type ∈ request.operands, type ∈ checker.arena.types) :
      Reachable (checker.serve request).2

end Checker

/-! ## The fields of a structure -/

/-- The fields of a structure that is asked for. -/
def Construction.fieldsOf (fields : List (String × Ty)) : List (Field Ty) :=
  fields.map fun field => ⟨⟨field.1⟩, field.2⟩

/-- Names differ, or there is a first one that occurred before. -/
theorem nodup_or_repeated (names : List String) :
    names.Nodup ∨
      ∃ before name after, names = before ++ name :: after ∧
        before.Nodup ∧ name ∈ before := by
  induction names using List.reverseRecOn with
  | nil => exact Or.inl List.nodup_nil
  | append_singleton names last inductionHypothesis =>
      rcases inductionHypothesis with
        distinct | ⟨before, name, after, rfl, distinct, again⟩
      · by_cases again : last ∈ names
        · exact Or.inr ⟨names, last, [], rfl, distinct, again⟩
        · rw [← List.concat_eq_append]
          exact Or.inl (distinct.concat again)
      · refine Or.inr ⟨before, name, after ++ [last], ?_, distinct, again⟩
        rw [List.append_assoc, List.cons_append]

namespace Arena

/-- Fields with new and distinct names are all added. -/
theorem addFields_append {before : List (String × Ty)}
    (distinct : (before.map Prod.fst).Nodup) {earlier : List (Field Ty)}
    (new : ∀ name ∈ before.map Prod.fst, ⟨name⟩ ∉ earlier.map Field.name)
    (arena : Arena) (rest : List (String × Ty)) :
    arena.addFields earlier (before ++ rest) =
      { arena with
        atoms := arena.atoms.internAll (before.map Prod.fst) }.addFields
          (earlier ++ Construction.fieldsOf before) rest := by
  induction before generalizing arena earlier with
  | nil =>
      have none : earlier ++ Construction.fieldsOf [] = earlier :=
        List.append_nil earlier
      rw [none]
      rfl
  | cons field before inductionHypothesis =>
      rcases field with ⟨name, type⟩
      rw [List.map_cons, List.nodup_cons] at distinct
      rw [List.map_cons, List.forall_mem_cons] at new
      have fresh : ¬ earlier.any (·.name = (⟨name⟩ : Atom)) = true := by
        simpa using new.1
      have later :
          ∀ other ∈ before.map Prod.fst,
            (⟨other⟩ : Atom) ∉
              (earlier ++ [(⟨⟨name⟩, type⟩ : Field Ty)]).map Field.name := by
        intro other member
        rw [List.map_append, List.mem_append, not_or]
        refine ⟨new.2 other member, ?_⟩
        rw [List.map_singleton, List.mem_singleton, Atom.mk.injEq]
        rintro rfl
        exact distinct.1 member
      rw [List.cons_append, addFields]
      dsimp only [Arena.intern, AtomTable.intern]
      rw [if_neg fresh, inductionHypothesis distinct.2 later,
        List.append_assoc]
      rfl

theorem struct_of_nodup {fields : List (String × Ty)}
    (distinct : (fields.map Prod.fst).Nodup) (arena : Arena) :
    arena.struct fields =
      made (unnamed
        { arena with atoms := arena.atoms.internAll (fields.map Prod.fst) }
        (.struct (Construction.fieldsOf fields))) := by
  have added : arena.addFields [] (fields ++ []) = _ :=
    addFields_append distinct (by simp) arena []
  rw [List.append_nil, List.nil_append] at added
  rw [struct, added]
  rfl

/-- The walk ends at the first name that occurred before. -/
theorem struct_of_repeated {fields : List (String × Ty)}
    {before after : List String} {name : String}
    (split : fields.map Prod.fst = before ++ name :: after)
    (distinct : before.Nodup) (again : name ∈ before) (arena : Arena) :
    arena.struct fields =
      (.error (.duplicateField name),
        { arena with
          atoms := arena.atoms.internAll (before ++ [name]) }) := by
  rcases List.map_eq_append_iff.mp split with ⟨first, rest, rfl, rfl, others⟩
  rcases List.map_eq_cons_iff.mp others with ⟨field, last, rfl, rfl, -⟩
  have occurs :
      (Construction.fieldsOf first).any (·.name = (⟨field.1⟩ : Atom)) =
        true := by
    simpa [Construction.fieldsOf] using again
  rw [struct, addFields_append distinct (by simp), List.nil_append, addFields]
  dsimp only [Arena.intern, AtomTable.intern]
  rw [if_pos occurs, AtomTable.internAll, AtomTable.internAll,
    List.foldl_append]
  rfl

/-- A structure is made, or refused at the first name that occurred before. -/
theorem struct_cases (arena : Arena) (fields : List (String × Ty)) :
    ((fields.map Prod.fst).Nodup ∧
        arena.struct fields =
          made (unnamed
            { arena with
              atoms := arena.atoms.internAll (fields.map Prod.fst) }
            (.struct (Construction.fieldsOf fields)))) ∨
      ∃ before name after, fields.map Prod.fst = before ++ name :: after ∧
        before.Nodup ∧ name ∈ before ∧
        arena.struct fields =
          (.error (.duplicateField name),
            { arena with
              atoms := arena.atoms.internAll (before ++ [name]) }) := by
  rcases nodup_or_repeated (fields.map Prod.fst) with
    distinct | ⟨before, name, after, split, distinct, again⟩
  · exact Or.inl ⟨distinct, struct_of_nodup distinct arena⟩
  · exact Or.inr ⟨before, name, after, split, distinct, again,
      struct_of_repeated split distinct again arena⟩

end Arena

/-! ## Constructions move -/

theorem Kind.Fits.ofComponents {arena : Arena} {kind : Kind Ty}
    (components : ∀ component ∈ kind.components, component ∈ arena.types)
    (width : kind.hasSupportedWidth = true)
    (noFields : kind.fieldNames = []) : kind.Fits arena := by
  constructor
  · exact components
  · exact width
  · simp [noFields]
  · simp [noFields]

/-- Moves lead from one arena to another, which hands out the given types. -/
structure Arena.Yields (before : Arena) (types : List Ty) (after : Arena) :
    Prop where
  moves : before.Moves after
  allocated : ∀ type ∈ types, type ∈ after.types

namespace Arena

theorem WellFormed.unnamed_mem {arena : Arena}
    (wellFormed : arena.WellFormed) (kind : Kind Ty) :
    (arena.unnamed kind).1 ∈ (arena.unnamed kind).2.types := by
  unfold Arena.unnamed
  split
  · exact Array.mem_push_self
  · next key _ =>
      split
      · next type found => exact ((wellFormed.shared key type).mp found).1
      · exact Array.mem_push_self

namespace Yields

variable {before after : Arena}

theorem nothing (moves : before.Moves after) : before.Yields [] after := by
  constructor
  · exact moves
  · simp

theorem one (moves : before.Moves after) {type : Ty}
    (member : type ∈ after.types) : before.Yields [type] after := by
  constructor
  · exact moves
  · exact List.forall_mem_singleton.mpr member

theorem unnamed {arena : Arena} (wellFormed : arena.WellFormed)
    {kind : Kind Ty} (fits : kind.Fits arena)
    (proper : kind.isIntrinsic = false) :
    arena.Yields [(arena.unnamed kind).1] (arena.unnamed kind).2 :=
  one (.single (.unnamed fits proper)) (wellFormed.unnamed_mem kind)

theorem leaf {arena : Arena} (wellFormed : arena.WellFormed)
    {kind : Kind Ty} (leaf : kind.components = [])
    (width : kind.hasSupportedWidth = true)
    (noFields : kind.fieldNames = []) (proper : kind.isIntrinsic = false) :
    arena.Yields [(arena.unnamed kind).1] (arena.unnamed kind).2 :=
  unnamed wellFormed (.ofComponents (by simp [leaf]) width noFields) proper

theorem constant {arena : Arena} (wellFormed : arena.WellFormed)
    (value : Constant) :
    arena.Yields [(arena.constant value).1] (arena.constant value).2 :=
  leaf wellFormed rfl rfl rfl rfl

theorem pointerTo {arena : Arena} (wellFormed : arena.WellFormed)
    {base : Ty} (member : base ∈ arena.types) :
    arena.Yields [(arena.pointerTo base).1] (arena.pointerTo base).2 :=
  unnamed wellFormed (.ofComponents (by simpa [Kind.components]) rfl rfl) rfl

theorem after_moves {middle : Arena} {types : List Ty}
    (moves : before.Moves middle) (yields : middle.Yields types after) :
    before.Yields types after where
  moves := moves.trans yields.moves
  allocated := yields.allocated

end Yields

theorem moves_internAll (arena : Arena) (texts : List String) :
    arena.Moves { arena with atoms := arena.atoms.internAll texts } := by
  induction texts generalizing arena with
  | nil => exact .refl
  | cons text texts inductionHypothesis =>
      exact .head (.intern text) (inductionHypothesis (arena.intern text).2)

theorem Yields.struct {arena : Arena} (wellFormed : arena.WellFormed)
    {fields : List (String × Ty)}
    (known : ∀ type ∈ fields.map Prod.snd, type ∈ arena.types) :
    arena.Yields (Reply.made (arena.struct fields).1).types
      (arena.struct fields).2 := by
  rcases arena.struct_cases fields with
    ⟨distinct, made⟩ | ⟨before, name, -, -, -, -, refused⟩
  · rw [made]
    have interned := arena.moves_internAll (fields.map Prod.fst)
    refine after_moves interned
      (unnamed (interned.wellFormed wellFormed) ?_ rfl)
    have distinctAtoms : ((fields.map Prod.fst).map Atom.mk).Nodup :=
      distinct.map fun _ _ same => Atom.mk.inj same
    constructor
    · intro type member
      apply known
      simpa [Kind.components, Construction.fieldsOf, Function.comp_def]
        using member
    · rfl
    · simpa [Kind.fieldNames, Construction.fieldsOf, Function.comp_def]
        using distinctAtoms
    · intro name member
      have listed : name ∈ (fields.map Prod.fst).map Atom.mk := by
        simpa [Kind.fieldNames, Construction.fieldsOf] using member
      rcases List.mem_map.mp listed with ⟨text, given, rfl⟩
      exact wellFormed.faithful.get?_internAll_of_mem given
  · rw [refused]
    exact nothing (arena.moves_internAll (before ++ [name]))

theorem Yields.declare {arena : Arena} (wellFormed : arena.WellFormed)
    (name : String) {underlying : Ty} (member : underlying ∈ arena.types) :
    arena.Yields (Reply.made (arena.declare name underlying).1).types
      (arena.declare name underlying).2 := by
  rw [Arena.declare]
  split_ifs with nameable
  · have known := wellFormed.faithful.get?_intern_self name
    exact one (.tail (.single (.intern name)) (.declare member nameable known))
      Array.mem_push_self
  · exact nothing (.single (.print member))

/-- Constructing a type from types of an arena keeps to its moves. -/
theorem Yields.construct {arena : Arena} (wellFormed : arena.WellFormed)
    (construction : Construction)
    (known : ∀ type ∈ construction.operands, type ∈ arena.types) :
    arena.Yields (Reply.made (arena.construct construction).1).types
      (arena.construct construction).2 := by
  cases construction with
  | int width =>
      rw [Arena.construct, Arena.int]
      split_ifs with supported
      · exact leaf wellFormed rfl supported rfl rfl
      · exact nothing .refl
  | uint width =>
      rw [Arena.construct, Arena.uint]
      split_ifs with supported
      · exact leaf wellFormed rfl supported rfl rfl
      · exact nothing .refl
  | float width =>
      rw [Arena.construct, Arena.float]
      split_ifs with supported
      · exact leaf wellFormed rfl supported rfl rfl
      · exact nothing .refl
  | pointer base => exact pointerTo wellFormed (known base List.mem_cons_self)
  | slice element =>
      exact unnamed wellFormed (.ofComponents known rfl rfl) rfl
  | array length element =>
      exact unnamed wellFormed (.ofComponents known rfl rfl) rfl
  | nil =>
      exact pointerTo wellFormed
        (wellFormed.intrinsics Ty.any (by simp [Ty.intrinsics]))
  | struct fields => exact .struct wellFormed known
  | func params results =>
      exact unnamed wellFormed (.ofComponents known rfl rfl) rfl
  | list types =>
      exact unnamed wellFormed (.ofComponents known rfl rfl) rfl
  | literal text =>
      rw [Arena.construct, Arena.literal]
      split
      · exact constant wellFormed _
      · exact nothing .refl
  | integer value => exact constant wellFormed _
  | floating value =>
      rw [Arena.construct, Arena.floating]
      split
      · exact constant wellFormed _
      · exact nothing .refl
  | declare name underlying =>
      exact .declare wellFormed name (known underlying List.mem_cons_self)

theorem predeclared_supported {name : String} {kind : Kind Ty}
    (listed : predeclaredKinds.lookup name = some kind) :
    kind = .bool ∨ kind = .string ∨ kind = .any ∨
      (kind.isNumeric = true ∧ kind.hasSupportedWidth = true) := by
  have all :
      ∀ entry ∈ predeclaredKinds,
        entry.2 = .bool ∨ entry.2 = .string ∨ entry.2 = .any ∨
          (entry.2.isNumeric = true ∧ entry.2.hasSupportedWidth = true) := by
    simp [predeclaredKinds, Kind.isNumeric, Kind.hasSupportedWidth,
      isIntWidth, isFloatWidth]
  rcases List.lookup_eq_some_iff.mp listed with ⟨before, after, parts, -⟩
  exact all (name, kind) (by rw [parts]; simp)

theorem Yields.predeclared {arena : Arena} (wellFormed : arena.WellFormed)
    {name : String} {result : Ty × Arena}
    (found : arena.predeclared? name = some result) :
    arena.Yields [result.1] result.2 := by
  rcases Option.map_eq_some_iff.mp found with ⟨kind, listed, rfl⟩
  rcases predeclared_supported listed with
    rfl | rfl | rfl | ⟨numeric, supported⟩
  · exact one .refl (wellFormed.intrinsics Ty.bool (by simp [Ty.intrinsics]))
  · exact one .refl (wellFormed.intrinsics Ty.string (by simp [Ty.intrinsics]))
  · exact one .refl (wellFormed.intrinsics Ty.any (by simp [Ty.intrinsics]))
  · cases kind with
    | int width | uint width | float width =>
        exact leaf wellFormed rfl supported rfl rfl
    | bool | string | pointer | array | slice | struct | func | list
    | untyped | unknown | any | void | variadicAny => cases numeric

end Arena

/-! ## Verdicts move -/

theorem Checker.report_arena (checker : Checker) (span : Span)
    (problem : Problem Ty) :
    (checker.report span problem).arena =
      problem.types.foldl (fun arena type => (arena.print type).2)
        checker.arena := by
  cases problem <;> rfl

theorem Arena.moves_printAll (arena : Arena) {types : List Ty}
    (known : ∀ type ∈ types, type ∈ arena.types) :
    arena.Moves
      (types.foldl (fun arena type => (arena.print type).2) arena) := by
  induction types generalizing arena with
  | nil => exact .refl
  | cons type types inductionHypothesis =>
      rw [List.forall_mem_cons] at known
      exact .head (.print known.1)
        (inductionHypothesis (arena.print type).2 known.2)

theorem Checker.moves_report {checker : Checker} (span : Span)
    {problem : Problem Ty}
    (owned : problem.Owned (· ∈ checker.arena.types)) :
    checker.arena.Moves (checker.report span problem).arena := by
  rw [report_arena]
  exact checker.arena.moves_printAll owned

theorem Checker.moves_reportAll {checker : Checker} (span : Span)
    {problems : List (Problem Ty)}
    (owned :
      ∀ problem ∈ problems, problem.Owned (· ∈ checker.arena.types)) :
    checker.arena.Moves (checker.reportAll span problems).arena := by
  induction problems generalizing checker with
  | nil => exact .refl
  | cons problem problems inductionHypothesis =>
      rw [List.forall_mem_cons] at owned
      have first := Checker.moves_report span owned.1
      refine first.trans (inductionHypothesis ?_)
      intro later member type refers
      exact first.mem_types (owned.2 later member type refers)

theorem Checker.realize_yields {checker : Checker}
    (wellFormed : checker.arena.WellFormed) {result : Result}
    (owned : result.Owned (· ∈ checker.arena.types)) :
    checker.arena.Yields [(checker.realize result).1]
      (checker.realize result).2.arena := by
  cases result with
  | type known => exact .one .refl owned
  | constant value => exact .constant wellFormed value
  | pointerTo base => exact .pointerTo wellFormed owned

theorem Result.Owned.mono {owns owns' : Ty → Prop} {result : Result}
    (owned : result.Owned owns) (grows : ∀ type, owns type → owns' type) :
    result.Owned owns' := by
  cases result with
  | type known => exact grows known owned
  | constant value => exact trivial
  | pointerTo base => exact grows base owned

/-- Carrying out a verdict on types of an arena keeps to its moves. -/
theorem Checker.conclude_yields {checker : Checker}
    (wellFormed : checker.arena.WellFormed) (span : Span)
    {verdict : Verdict}
    (owned : verdict.Owned (· ∈ checker.arena.types)) :
    checker.arena.Yields [(checker.conclude span verdict).1]
      (checker.conclude span verdict).2.arena := by
  have reported := Checker.moves_reportAll span owned.problems
  refine .after_moves reported
    (Checker.realize_yields (reported.wellFormed wellFormed) ?_)
  exact owned.result.mono fun _ member => reported.mem_types member

/-! ## Requests move -/

theorem Arena.WellFormed.closed {arena : Arena}
    (wellFormed : arena.WellFormed) : Ty.Closed (· ∈ arena.types) where
  unknown := wellFormed.intrinsics Ty.unknown (by simp [Ty.intrinsics])
  void := wellFormed.intrinsics Ty.void (by simp [Ty.intrinsics])
  components type member := (wellFormed.fits type member).components

namespace Checker

/-- Whatever a client asks for keeps to the moves of the arena. -/
theorem serve_yields {checker : Checker}
    (wellFormed : checker.arena.WellFormed) (request : Request)
    (known : ∀ type ∈ request.operands, type ∈ checker.arena.types) :
    checker.arena.Yields (checker.serve request).1.types
      (checker.serve request).2.arena := by
  have closed := wellFormed.closed
  cases request with
  | construct construction => exact .construct wellFormed construction known
  | predeclared name =>
      rw [serve]
      split
      · next result found => exact .predeclared wellFormed found
      · exact .nothing .refl
  | intern text => exact .nothing (.single (.intern text))
  | print type =>
      exact .nothing (.single (.print (known type List.mem_cons_self)))
  | assign span dest source =>
      rw [Request.operands, List.forall_mem_cons, List.forall_mem_singleton]
        at known
      rw [serve, assign]
      split
      · exact .nothing .refl
      · next problem obstacle =>
          exact .nothing (Checker.moves_report span
            (Ty.obstacle?_owned closed.components known.1 known.2 obstacle))
  | binary span op left right =>
      exact Checker.conclude_yields wellFormed span
        ((op.check_outcome checker.options left right).owned closed known)
  | unary span op operand =>
      exact Checker.conclude_yields wellFormed span
        ((op.check_outcome checker.options operand).owned closed known)
  | call span callee args =>
      rw [Request.operands, List.forall_mem_cons] at known
      exact Checker.conclude_yields wellFormed span
        (Ty.checkCall_owned closed checker.options known.1 known.2)
  | take => exact .nothing .refl
  | renew options => exact .nothing .refl

/-- Every arena that a client brings about is well formed. -/
theorem Reachable.wellFormed {checker : Checker}
    (reachable : checker.Reachable) : checker.arena.WellFormed := by
  induction reachable with
  | initial options => exact Arena.WellFormed.initial
  | serve request _ known inductionHypothesis =>
      exact (serve_yields inductionHypothesis request known).moves.wellFormed
        inductionHypothesis

/-! ## Going on -/

/-- The checkers that a client can bring about from a given one. -/
inductive Reaches (checker : Checker) : Checker → Prop where
  | refl : Reaches checker checker
  | serve {reached : Checker} (request : Request)
      (reaches : Reaches checker reached)
      (known : ∀ type ∈ request.operands, type ∈ reached.arena.types) :
      Reaches checker (reached.serve request).2

theorem Reaches.reachable {checker later : Checker}
    (reaches : checker.Reaches later) (reachable : checker.Reachable) :
    later.Reachable := by
  induction reaches with
  | refl => exact reachable
  | serve request _ known inductionHypothesis =>
      exact .serve request inductionHypothesis known

theorem Reaches.moves {checker later : Checker}
    (reaches : checker.Reaches later) (reachable : checker.Reachable) :
    checker.arena.Moves later.arena := by
  induction reaches with
  | refl => exact .refl
  | serve request reaches known inductionHypothesis =>
      have wellFormed := (reaches.reachable reachable).wellFormed
      exact inductionHypothesis.trans
        (serve_yields wellFormed request known).moves

end Checker

/-! ## The arenas of all runs -/

/--
What holds of the arena after any run of a client: ids count up from zero
without gaps; components are older types of the arena; the table of shared
types lists, for each key, the unnamed type that the key stands for and nothing
else; numbers have the widths there are; there is one type of each kind that
marks something for the checker, and neither these nor constants nor lists are
ever named; field names do not repeat and all names are known; spellings are
kept of types of the arena only.  Whatever a client then asks for, starting
from types of the arena, it only gets hold of types of the arena.
-/
theorem Checker.reachable_arena_invariant {checker : Checker}
    (reachable : checker.Reachable) :
    checker.arena.types.toList.map Ty.id =
        List.range checker.arena.nextId ∧
      (∀ type ∈ checker.arena.types, ∀ component ∈ type.kind.components,
        component ∈ checker.arena.types ∧ component.id < type.id) ∧
      (∀ key type,
        checker.arena.interned.get? key = some type ↔
          type ∈ checker.arena.types ∧ type.name = none ∧
            key.Spells type.kind) ∧
      (∀ type ∈ checker.arena.types, ∀ width,
        (type.kind = .int width ∨ type.kind = .uint width →
            width ∈ [8, 16, 32, 64]) ∧
          (type.kind = .float width → width ∈ [32, 64])) ∧
      (∀ kind ∈ [Kind.unknown, .any, .void, .variadicAny],
        ∃! type, type ∈ checker.arena.types ∧ type.kind = kind) ∧
      (∀ type ∈ checker.arena.types, type.name ≠ none →
        type.kind.isSentinel = false ∧ type.kind.constant? = none ∧
          ∀ types, type.kind ≠ .list types) ∧
      (∀ type ∈ checker.arena.types,
        type.kind.fieldNames.Nodup ∧
          ∀ name, name ∈ type.kind.fieldNames ∨ type.name = some name →
            checker.arena.atoms.get? name = some name.source) ∧
      (∀ id text, checker.arena.printed.get? id = some text →
        ∃ type ∈ checker.arena.types, type.id = id) ∧
      ∀ request : Request,
        (∀ type ∈ request.operands, type ∈ checker.arena.types) →
          ∀ type ∈ (checker.serve request).1.types,
            type ∈ (checker.serve request).2.arena.types := by
  have wellFormed := reachable.wellFormed
  refine ⟨wellFormed.ids, ?_, wellFormed.shared, ?_, ?_, ?_, ?_, ?_, ?_⟩
  · intro type member component below
    exact ⟨(wellFormed.fits type member).components component below,
      wellFormed.descends type member component below⟩
  · intro type member width
    have supported := (wellFormed.fits type member).width
    constructor
    · rintro (kinds | kinds)
      all_goals
        rw [kinds] at supported
        exact List.contains_iff_mem.mp supported
    · intro kinds
      rw [kinds] at supported
      exact List.contains_iff_mem.mp supported
  · intro kind listed
    have sentinel : kind.isSentinel = true := by
      simp only [List.mem_cons, List.not_mem_nil, or_false] at listed
      rcases listed with rfl | rfl | rfl | rfl <;> rfl
    exact wellFormed.sentinel_existsUnique sentinel
  · intro type member named
    rcases Option.ne_none_iff_exists'.mp named with ⟨name, named⟩
    exact Kind.canBeNamed_iff.mp (wellFormed.named type member name named).1
  · intro type member
    refine ⟨(wellFormed.fits type member).distinct, ?_⟩
    rintro name (field | named)
    · exact (wellFormed.fits type member).known name field
    · exact (wellFormed.named type member name named).2
  · intro id text kept
    exact wellFormed.exists_of_printed kept
  · intro request known
    exact (serve_yields wellFormed request known).allocated

/-- The slices of truth values, as the first type that a client asks for. -/
def Ty.flags : Ty :=
  ⟨6, none, .slice Ty.bool⟩

/--
A run that makes a slice, takes its address twice, fails to make a structure
and gives the slice a name.
-/
def Checker.flagsRun : Checker :=
  let sliced := ((initial .standard).serve (.construct (.slice Ty.bool))).2
  let pointed := (sliced.serve (.unary .unplaced .addressOf Ty.flags)).2
  let again := (pointed.serve (.unary .unplaced .addressOf Ty.flags)).2
  let failed :=
    (again.serve
      (.construct (.struct [("set", Ty.bool), ("set", Ty.string)]))).2
  (failed.serve (.construct (.declare "Flags" Ty.flags))).2

theorem Checker.reachable_arena_invariant_flagsRun :
    flagsRun.Reachable ∧
      flagsRun.arena.types.toList.map Ty.id = List.range 9 ∧
      (∃ named, flagsRun.arena.types[8]? = some named ∧
        named.name = some ⟨"Flags"⟩ ∧
        flagsRun.arena.atoms.get? ⟨"Flags"⟩ = some "Flags") := by
  have reachable : flagsRun.Reachable := by
    refine .serve _ (.serve _ (.serve _ (.serve _ (.serve _
      (.initial .standard) ?_) ?_) ?_) ?_) ?_
    · exact List.forall_mem_singleton.mpr (Array.mem_of_getElem? (i := 4) rfl)
    · exact List.forall_mem_singleton.mpr (Array.mem_of_getElem? (i := 6) rfl)
    · exact List.forall_mem_singleton.mpr (Array.mem_of_getElem? (i := 6) rfl)
    · exact List.forall_mem_cons.mpr ⟨Array.mem_of_getElem? (i := 4) rfl,
        List.forall_mem_singleton.mpr (Array.mem_of_getElem? (i := 5) rfl)⟩
    · exact List.forall_mem_singleton.mpr (Array.mem_of_getElem? (i := 6) rfl)
  have holds := reachable_arena_invariant reachable
  refine ⟨reachable, holds.1, ⟨8, some ⟨"Flags"⟩, .slice Ty.bool⟩, rfl, rfl, ?_⟩
  have names := holds.2.2.2.2.2.2.1
  exact (names _ (Array.mem_of_getElem? (i := 8) rfl)).2 _ (.inr rfl)

end TypeRules
