import TypeRules.Proofs.StrictSpelling
import TypeRules.Proofs.StrictVerdicts
import TypeRules.Proofs.Transparency

/-!
# Conversations without faults

A client talks to a checker from the very beginning, about types of the arena
and nothing else.  Here the checker works by primitives that can meet with
faults, among them one that gives ids to new types and has `2 ^ 32` of them.

No conversation meets with a fault as long as there are ids.  A request leads
from a well-formed arena to a well-formed one, in which all names are known, and
types are never lost.
-/

namespace TypeRules

namespace Strict

/-! ## Types -/

/-- Make a type that is the same as no other, if an id is left after its own. -/
def fresh (arena : Arena) (name : Option Atom) (kind : Kind Ty) :
    Checked (Ty × Arena) :=
  if arena.nextId + 1 < 2 ^ 32 then return arena.fresh name kind
  else throw .idsExhausted

/-- The unnamed type of a kind: the shared one if the kind is shared. -/
def unnamed (arena : Arena) (kind : Kind Ty) : Checked (Ty × Arena) :=
  match kind.internKey? with
  | none => fresh arena none kind
  | some key =>
      match arena.interned.get? key with
      | some type => return (type, arena)
      | none => do
          let (type, arena) ← fresh arena none kind
          return (type, { arena with interned := arena.interned.insert key type })

/-- The unnamed type of a kind, where there is such a type. -/
def guarded (arena : Arena) (allowed : Bool) (kind : Kind Ty)
    (error : ConstructionError) : Checked Arena.Made :=
  if allowed then Arena.made <$> unnamed arena kind
  else return (.error error, arena)

/-- Spell a type. -/
def print (arena : Arena) (type : Ty) : Checked (String × Arena) := do
  let (text, printed) ← (spellType arena.atoms type).run arena.printed
  return (text, { arena with printed })

/-- Add fields to earlier ones, up to a name that is already there. -/
def addFields (arena : Arena) (earlier : List (Field Ty)) :
    List (String × Ty) →
      Checked (Except ConstructionError (List (Field Ty)) × Arena)
  | [] => return (.ok earlier, arena)
  | (name, type) :: fields => do
      let (atom, atoms) ← intern arena.atoms name
      if earlier.any (·.name = atom) then
        return (.error (.duplicateField name), { arena with atoms })
      else
        addFields { arena with atoms } (earlier ++ [⟨atom, type⟩]) fields

/-- A new structure with the given fields. -/
def struct (arena : Arena) (fields : List (String × Ty)) :
    Checked Arena.Made := do
  match ← addFields arena [] fields with
  | (.ok fields, arena) => return Arena.made (← unnamed arena (.struct fields))
  | (.error error, arena) => return (.error error, arena)

/-- Declare a new type of the given name. -/
def declare (arena : Arena) (name : String) (underlying : Ty) :
    Checked Arena.Made :=
  if underlying.kind.canBeNamed then do
    let (atom, atoms) ← intern arena.atoms name
    return Arena.made
      (← fresh { arena with atoms } (some atom) underlying.kind)
  else do
    let (spelling, arena) ← print arena underlying
    return (.error (.cannotName spelling), arena)

/-- Make a type, unless that fails. -/
def construct (arena : Arena) : Construction → Checked Arena.Made
  | .int width =>
      guarded arena (isIntWidth width) (.int width)
        (.unsupportedIntWidth width)
  | .uint width =>
      guarded arena (isIntWidth width) (.uint width)
        (.unsupportedIntWidth width)
  | .float width =>
      guarded arena (isFloatWidth width) (.float width)
        (.unsupportedFloatWidth width)
  | .pointer base => Arena.made <$> unnamed arena (.pointer base)
  | .slice element => Arena.made <$> unnamed arena (.slice element)
  | .array length element =>
      Arena.made <$> unnamed arena (.array length element)
  | .nil => Arena.made <$> unnamed arena (.pointer Ty.any)
  | .struct fields => struct arena fields
  | .func params results => Arena.made <$> unnamed arena (.func params results)
  | .list types => Arena.made <$> unnamed arena (.list types)
  | .literal text => do
      match ← ofLiteral? text with
      | some value => return Arena.made (← unnamed arena (.untyped value))
      | none => return (.error (.invalidLiteral text), arena)
  | .integer value =>
      Arena.made <$> unnamed arena (.untyped (.ofInt128 value))
  | .floating value =>
      match Constant.ofBinary64? value with
      | some value => Arena.made <$> unnamed arena (.untyped value)
      | none => return (.error (.notFinite value), arena)
  | .declare name underlying => declare arena name underlying

/-- The type that a predeclared name stands for. -/
def predeclared? (arena : Arena) (name : String) :
    Checked (Option (Ty × Arena)) :=
  match predeclaredKinds.lookup name with
  | none => return none
  | some .bool => return some (Ty.bool, arena)
  | some .string => return some (Ty.string, arena)
  | some .any => return some (Ty.any, arena)
  | some kind => some <$> unnamed arena kind

section Types

variable {arena : Arena}

theorem fresh_eq {name : Option Atom} {kind : Kind Ty}
    (few : (arena.fresh name kind).2.types.size < 2 ^ 32) :
    fresh arena name kind = .ok (arena.fresh name kind) := by
  rw [fresh, if_pos]
  · rfl
  · simpa [Arena.fresh, Arena.nextId] using few

theorem unnamed_eq {kind : Kind Ty}
    (few : (arena.unnamed kind).2.types.size < 2 ^ 32) :
    unnamed arena kind = .ok (arena.unnamed kind) := by
  revert few
  rw [unnamed, Arena.unnamed]
  cases kind.internKey? with
  | none => exact fresh_eq
  | some key =>
      dsimp only
      cases arena.interned.get? key with
      | some type =>
          intro
          rfl
      | none =>
          intro few
          rw [fresh_eq few]
          rfl

theorem guarded_eq {allowed : Bool} {kind : Kind Ty} (error : ConstructionError)
    (few : allowed = true → (arena.unnamed kind).2.types.size < 2 ^ 32) :
    guarded arena allowed kind error =
      .ok (if allowed then Arena.made (arena.unnamed kind)
        else (.error error, arena)) := by
  rw [guarded]
  split_ifs with allows
  · rw [unnamed_eq (few allows)]
    rfl
  · rfl

theorem print_eq (wellFormed : arena.WellFormed) {type : Ty}
    (member : type ∈ arena.types) :
    print arena type = .ok (arena.print type) := by
  rw [print, Follows.spellType wellFormed member]
  rfl

theorem addFields_eq (arena : Arena) (earlier : List (Field Ty))
    (fields : List (String × Ty)) :
    addFields arena earlier fields = .ok (arena.addFields earlier fields) := by
  induction fields generalizing arena earlier with
  | nil => rfl
  | cons field fields inductionHypothesis =>
      rw [addFields, intern_eq, ok_bind, Arena.addFields, Arena.intern]
      dsimp only
      split_ifs
      · rfl
      · exact inductionHypothesis _ _

theorem struct_eq {fields : List (String × Ty)}
    (few : (arena.struct fields).2.types.size < 2 ^ 32) :
    struct arena fields = .ok (arena.struct fields) := by
  revert few
  rw [struct, addFields_eq, ok_bind, Arena.struct]
  rcases arena.addFields [] fields with ⟨error | added, arena⟩
  · intro
    rfl
  · intro few
    dsimp only
    rw [unnamed_eq few]
    rfl

theorem declare_eq (wellFormed : arena.WellFormed) {name : String}
    {underlying : Ty} (member : underlying ∈ arena.types)
    (few : (arena.declare name underlying).2.types.size < 2 ^ 32) :
    declare arena name underlying = .ok (arena.declare name underlying) := by
  rw [declare, Arena.declare]
  rw [Arena.declare] at few
  split_ifs at few ⊢
  · rw [intern_eq, ok_bind]
    dsimp only [Arena.intern] at few ⊢
    rw [fresh_eq few]
    rfl
  · rw [print_eq wellFormed member]
    rfl

theorem construct_eq (wellFormed : arena.WellFormed)
    {construction : Construction}
    (known : ∀ type ∈ construction.operands, type ∈ arena.types)
    (few : (arena.construct construction).2.types.size < 2 ^ 32) :
    construct arena construction = .ok (arena.construct construction) := by
  have shared {kind : Kind Ty}
      (few : (Arena.made (arena.unnamed kind)).2.types.size < 2 ^ 32) :
      Arena.made <$> unnamed arena kind =
        (.ok (Arena.made (arena.unnamed kind)) : Checked Arena.Made) := by
    rw [unnamed_eq few]
    rfl
  cases construction with
  | int width | uint width | float width =>
      refine guarded_eq _ fun allowed => ?_
      simpa [Arena.construct, Arena.int, Arena.uint, Arena.float, allowed,
        Arena.made] using few
  | struct fields => exact struct_eq few
  | literal text =>
      revert few
      rw [construct, ofLiteral?_eq, ok_bind, Arena.construct, Arena.literal]
      cases Constant.ofLiteral? text with
      | some value => exact shared
      | none =>
          intro
          rfl
  | floating value =>
      revert few
      rw [construct, Arena.construct, Arena.floating]
      cases Constant.ofBinary64? value with
      | some value => exact shared
      | none =>
          intro
          rfl
  | declare name underlying =>
      exact declare_eq wellFormed (known underlying List.mem_cons_self) few
  | pointer | slice | array | nil | func | list | integer => exact shared few

theorem predeclared?_eq {name : String}
    (few :
      ∀ result, arena.predeclared? name = some result →
        result.2.types.size < 2 ^ 32) :
    predeclared? arena name = .ok (arena.predeclared? name) := by
  revert few
  rw [predeclared?, Arena.predeclared?]
  cases predeclaredKinds.lookup name with
  | none =>
      intro
      rfl
  | some kind =>
      intro few
      cases kind with
      | bool | string | any => rfl
      | int | uint | float | pointer | array | slice | struct | func | list
      | untyped | unknown | void | variadicAny =>
          dsimp only
          rw [unnamed_eq (few _ rfl)]
          rfl

end Types

/-! ## Checkers -/

/-- A checker at the start, each predeclared name being given its text. -/
def initial (options : Options) : Checked Checker := do
  let atoms ← insertAll .empty predeclaredNames
  return { Checker.initial options with
    arena := { Arena.initial with atoms } }

/-- Add a diagnostic for a problem. -/
def report (span : Span) (checker : Checker) (problem : Problem Ty) :
    Checked Checker := do
  let (problem, printed) ←
    (problem.mapM (spellType checker.arena.atoms)).run checker.arena.printed
  return { checker with
    arena := { checker.arena with printed }
    diagnostics := checker.diagnostics ++ [⟨problem, span⟩] }

/-- The type of a result, made if there is none yet. -/
def realize (checker : Checker) : Result → Checked (Ty × Checker)
  | .type type => return (type, checker)
  | .constant constant =>
      return checker.withArena
        (← unnamed checker.arena (.untyped constant))
  | .pointerTo base =>
      return checker.withArena (← unnamed checker.arena (.pointer base))

/-- Carry out a verdict. -/
def conclude (checker : Checker) (span : Span) (verdict : Verdict) :
    Checked (Ty × Checker) := do
  realize (← verdict.problems.foldlM (report span) checker) verdict.result

/-- Whether a value may be stored in a location. -/
def assign (checker : Checker) (span : Span) (dest source : Ty) :
    Checked (Bool × Checker) := do
  match ← obstacle? checker.options dest source with
  | none => return (true, checker)
  | some problem => return (false, ← report span checker problem)

/-- Do what a client asks for. -/
def serve (checker : Checker) : Request → Checked (Reply × Checker)
  | .construct construction =>
      return (checker.withArena
        (← construct checker.arena construction)).map .made id
  | .predeclared name => do
      match ← predeclared? checker.arena name with
      | some result =>
          return (checker.withArena result).map
            (fun type => .found (some type)) id
      | none => return (.found none, checker)
  | .intern text => do
      let (atom, atoms) ← intern checker.arena.atoms text
      return (.atom atom, { checker with arena := { checker.arena with atoms } })
  | .print type =>
      return (checker.withArena (← print checker.arena type)).map .text id
  | .assign span dest source =>
      return (← assign checker span dest source).map .accepted id
  | .binary span op left right => do
      let verdict ← checkBinary op checker.options left right
      return (← conclude checker span verdict).map .type id
  | .unary span op operand =>
      return (← conclude checker span (op.check checker.options operand)).map
        .type id
  | .call span callee args => do
      let verdict ← checkCall checker.options callee args
      return (← conclude checker span verdict).map .type id
  | .take => return checker.takeDiagnostics.map .taken id
  | .renew options => return (.renewed, ⟨checker.arena, options, []⟩)

/-- Answer an inquiry. -/
def answer (checker : Checker) : Inquiry → Checked (Response × Checker)
  | .request request => return (← serve checker request).map .reply id
  | .relate left right => return (.related (left.relations right), checker)
  | .field type name => return (.field (type.field? name), checker)

/-- Answer inquiries one after another. -/
def dialogue (checker : Checker) :
    List Inquiry → Checked (List Response × Checker)
  | [] => return ([], checker)
  | inquiry :: inquiries => do
      let (response, next) ← answer checker inquiry
      let (responses, last) ← dialogue next inquiries
      return (response :: responses, last)

end Strict

/-- Answer inquiries one after another. -/
def Checker.dialogue (checker : Checker) :
    List Inquiry → List Response × Checker
  | [] => ([], checker)
  | inquiry :: inquiries =>
      let (response, next) := checker.answer inquiry
      let (responses, last) := next.dialogue inquiries
      (response :: responses, last)

namespace Strict

theorem initial_eq (options : Options) :
    initial options = .ok (Checker.initial options) :=
  rfl

section Checkers

variable {checker : Checker}

theorem report_eq (wellFormed : checker.arena.WellFormed) (span : Span)
    {problem : Problem Ty}
    (owned : problem.Owned (· ∈ checker.arena.types)) :
    report span checker problem = .ok (checker.report span problem) := by
  rw [report, Follows.problem wellFormed owned]
  rfl

theorem reportAll_eq (wellFormed : checker.arena.WellFormed) (span : Span)
    {problems : List (Problem Ty)}
    (owned :
      ∀ problem ∈ problems, problem.Owned (· ∈ checker.arena.types)) :
    problems.foldlM (report span) checker =
      .ok (checker.reportAll span problems) := by
  induction problems generalizing checker with
  | nil => rfl
  | cons problem problems inductionHypothesis =>
      rw [List.forall_mem_cons] at owned
      have moves := Checker.moves_report span owned.1
      rw [List.foldlM_cons, report_eq wellFormed span owned.1, ok_bind]
      -- Reporting changes the texts kept, so the rest starts from a new arena.
      apply inductionHypothesis (moves.wellFormed wellFormed)
      intro later member type refers
      exact moves.mem_types (owned.2 later member type refers)

theorem realize_eq {result : Result}
    (few : (checker.realize result).2.arena.types.size < 2 ^ 32) :
    realize checker result = .ok (checker.realize result) := by
  cases result with
  | type type => rfl
  | constant constant =>
      have made : unnamed checker.arena (.untyped constant) = .ok _ :=
        unnamed_eq few
      rw [realize, made]
      rfl
  | pointerTo base =>
      have made : unnamed checker.arena (.pointer base) = .ok _ :=
        unnamed_eq few
      rw [realize, made]
      rfl

theorem conclude_eq (wellFormed : checker.arena.WellFormed) (span : Span)
    {verdict : Verdict} (owned : verdict.Owned (· ∈ checker.arena.types))
    (few : (checker.conclude span verdict).2.arena.types.size < 2 ^ 32) :
    conclude checker span verdict = .ok (checker.conclude span verdict) := by
  rw [conclude, reportAll_eq wellFormed span owned.problems, ok_bind]
  exact realize_eq few

theorem assign_eq (wellFormed : checker.arena.WellFormed) (span : Span)
    {dest source : Ty} (destMember : dest ∈ checker.arena.types)
    (sourceMember : source ∈ checker.arena.types) :
    assign checker span dest source =
      .ok (checker.assign span dest source) := by
  rw [assign, obstacle?_eq, ok_bind, Checker.assign]
  cases found : dest.obstacle? checker.options source with
  | none => rfl
  | some problem =>
      have owned := Ty.obstacle?_owned wellFormed.closed.components
        destMember sourceMember found
      dsimp only
      rw [report_eq wellFormed span owned]
      rfl

/-- A request about types of the arena meets with no fault. -/
theorem serve_eq (wellFormed : checker.arena.WellFormed) {request : Request}
    (known : ∀ type ∈ request.operands, type ∈ checker.arena.types)
    (few : (checker.serve request).2.arena.types.size < 2 ^ 32) :
    serve checker request = .ok (checker.serve request) := by
  have closed := wellFormed.closed
  cases request with
  | construct construction =>
      rw [serve, construct_eq wellFormed known few]
      rfl
  | predeclared name =>
      have bounded :
          ∀ result, checker.arena.predeclared? name = some result →
            result.2.types.size < 2 ^ 32 := by
        intro result found
        rw [Checker.serve, found] at few
        exact few
      rw [serve, predeclared?_eq bounded, ok_bind, Checker.serve]
      cases checker.arena.predeclared? name <;> rfl
  | intern text =>
      rw [serve, intern_eq]
      rfl
  | print type =>
      rw [serve, print_eq wellFormed (known type List.mem_cons_self)]
      rfl
  | assign span dest source =>
      rw [Request.operands, List.forall_mem_cons, List.forall_mem_singleton]
        at known
      rw [serve, assign_eq wellFormed span known.1 known.2]
      rfl
  | binary span op left right =>
      have owned :=
        (op.check_outcome checker.options left right).owned closed known
      rw [serve, checkBinary_eq, ok_bind, conclude_eq wellFormed span owned few]
      rfl
  | unary span op operand =>
      have owned :=
        (op.check_outcome checker.options operand).owned closed known
      rw [serve, conclude_eq wellFormed span owned few]
      rfl
  | call span callee args =>
      rw [Request.operands, List.forall_mem_cons] at known
      have owned :=
        Ty.checkCall_owned closed checker.options known.1 known.2
      rw [serve, checkCall_eq, ok_bind, conclude_eq wellFormed span owned few]
      rfl
  | take => rfl
  | renew options => rfl

theorem answer_eq (wellFormed : checker.arena.WellFormed) {inquiry : Inquiry}
    (known : ∀ type ∈ inquiry.operands, type ∈ checker.arena.types)
    (few : (checker.answer inquiry).2.arena.types.size < 2 ^ 32) :
    answer checker inquiry = .ok (checker.answer inquiry) := by
  cases inquiry with
  | request request =>
      rw [answer, serve_eq wellFormed known few]
      rfl
  | relate left right => rfl
  | field type name => rfl

end Checkers

end Strict

/-! ## Conversations -/

theorem Arena.Moves.size_le {before after : Arena}
    (moves : before.Moves after) : before.types.size ≤ after.types.size :=
  moves.types_grow.length_le

namespace Checker

theorem answer_moves {checker : Checker}
    (wellFormed : checker.arena.WellFormed) {inquiry : Inquiry}
    (known : ∀ type ∈ inquiry.operands, type ∈ checker.arena.types) :
    checker.arena.Moves (checker.answer inquiry).2.arena := by
  cases inquiry with
  | request request => exact (serve_yields wellFormed request known).moves
  | relate left right => exact .refl
  | field type name => exact .refl

theorem dialogue_moves {checker : Checker}
    (wellFormed : checker.arena.WellFormed) {inquiries : List Inquiry}
    (admits : checker.Admits (inquiries.map .proper)) :
    checker.arena.Moves (checker.dialogue inquiries).2.arena := by
  induction inquiries generalizing checker with
  | nil => exact .refl
  | cons inquiry inquiries inductionHypothesis =>
      cases admits with
      | proper known rest =>
          have first := answer_moves wellFormed known
          exact first.trans
            (inductionHypothesis (first.wellFormed wellFormed) rest)

theorem dialogue_strict_eq {checker : Checker}
    (wellFormed : checker.arena.WellFormed) {inquiries : List Inquiry}
    (admits : checker.Admits (inquiries.map .proper))
    (few : (checker.dialogue inquiries).2.arena.types.size < 2 ^ 32) :
    Strict.dialogue checker inquiries = .ok (checker.dialogue inquiries) := by
  induction inquiries generalizing checker with
  | nil => rfl
  | cons inquiry inquiries inductionHypothesis =>
      cases admits with
      | proper known rest =>
          have first := answer_moves wellFormed known
          have after := first.wellFormed wellFormed
          -- The bound is on the types at the end, and arenas only grow.
          have grows := Arena.Moves.size_le (dialogue_moves after rest)
          have answered : Strict.answer checker inquiry = .ok _ :=
            Strict.answer_eq wellFormed known (lt_of_le_of_lt grows few)
          have later : Strict.dialogue _ inquiries = .ok _ :=
            inductionHypothesis after rest few
          rw [Strict.dialogue, answered, Strict.ok_bind]
          dsimp only
          rw [later]
          rfl

/--
A client that talks to a checker from the beginning, about types of the arena
and under any options, never makes it meet with a fault as long as there are
fewer than `2 ^ 32` types: the strict conversation is the plain one.
-/
theorem dialogue_without_fault (options : Options) (inquiries : List Inquiry)
    (admits : (initial options).Admits (inquiries.map .proper))
    (few :
      ((initial options).dialogue inquiries).2.arena.types.size < 2 ^ 32) :
    (do Strict.dialogue (← Strict.initial options) inquiries) =
      .ok ((initial options).dialogue inquiries) := by
  rw [Strict.initial_eq, Strict.ok_bind]
  exact dialogue_strict_eq .initial admits few

/-- Functions of a structure and of any number of further arguments. -/
def pointFunction : Ty :=
  ⟨7, none, .func [Ty.point 6, Ty.variadicAny] []⟩

/--
A structure is made and spelled, a function of it is called without arguments,
and a literal has a zero before a letter that takes two bytes.
-/
def pointInquiries : List Inquiry :=
  [.request (.construct (.struct [("x", Ty.bool)])),
    .request (.print (Ty.point 6)),
    .request (.construct (.func [Ty.point 6, Ty.variadicAny] [])),
    .request (.call .unplaced pointFunction []),
    .request (.construct (.literal "-0é"))]

theorem dialogue_without_fault_pointInquiries :
    (initial .standard).Admits (pointInquiries.map .proper) ∧
      (do Strict.dialogue (← Strict.initial .standard) pointInquiries) =
        .ok ((initial .standard).dialogue pointInquiries) := by
  have admits : (initial .standard).Admits (pointInquiries.map .proper) := by
    refine .proper ?_ (.proper ?_ (.proper ?_ (.proper ?_ (.proper ?_
      (.done _)))))
    · exact List.forall_mem_singleton.mpr (Array.mem_of_getElem? (i := 4) rfl)
    · exact List.forall_mem_singleton.mpr (Array.mem_of_getElem? (i := 6) rfl)
    · exact List.forall_mem_cons.mpr ⟨Array.mem_of_getElem? (i := 6) rfl,
        List.forall_mem_singleton.mpr (Array.mem_of_getElem? (i := 3) rfl)⟩
    · exact List.forall_mem_singleton.mpr (Array.mem_of_getElem? (i := 7) rfl)
    · exact List.forall_mem_nil _
  refine ⟨admits, dialogue_without_fault .standard pointInquiries admits ?_⟩
  decide

end Checker

end TypeRules
