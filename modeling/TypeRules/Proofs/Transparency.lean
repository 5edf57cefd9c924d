import TypeRules.Proofs.Rendering
import TypeRules.Ty.Relation

/-!
# What a client cannot notice

A client talks to a checker in turns, and each turn is answered and may add
diagnostics.  Beside its types a checker keeps names and spellings, and these
change on occasions that have nothing to do with what the client is after: when
a type is spelled, when a construction fails half-way, when a problem is put
into words.

Two checkers *agree* if they differ in what they keep and in nothing else.  One
turn leads checkers that agree to the same answer, the same new diagnostics and
checkers that agree again.  A turn that only spells, only fails or only reports
leads a checker to one that agrees with it.  So such turns can be put into a
conversation or left out of it, and no other turn is answered differently.
-/

namespace TypeRules

/-! ## Conversations -/

/-- What a client can ask. -/
inductive Inquiry where
  | request (request : Request)
  /-- How two types are related. -/
  | relate (left right : Ty)
  /-- What the field of the given name holds. -/
  | field (type : Ty) (name : Atom)

def Inquiry.operands : Inquiry → List Ty
  | .request own => own.operands
  | .relate left right => [left, right]
  | .field type _ => [type]

/-- What a client is told. -/
inductive Response where
  | reply (reply : Reply)
  | related (relations : Relations)
  | field (found : Option Ty)

/-- What the field of a structure holds, if there is such a field. -/
def Ty.field? (type : Ty) (name : Atom) : Option Ty :=
  match type.kind with
  | .struct fields => Field.lookup? fields name
  | _ => none

/-- What a turn comes to: the answer and the diagnostics that it adds. -/
structure Exchange where
  response : Response
  added : List Diagnostic

/-- A turn that belongs to a conversation, or one that is put in between. -/
inductive Turn where
  | proper (inquiry : Inquiry)
  | extra (inquiry : Inquiry)

def Turn.isProper : Turn → Bool
  | .proper _ => true
  | .extra _ => false

namespace Checker

/-- Answer an inquiry. -/
def answer (checker : Checker) : Inquiry → Response × Checker
  | .request request => (checker.serve request).map .reply id
  | .relate left right => (.related (left.relations right), checker)
  | .field type name => (.field (type.field? name), checker)

/-- What an inquiry comes to. -/
def exchange (checker : Checker) (inquiry : Inquiry) : Exchange where
  response := (checker.answer inquiry).1
  added :=
    (checker.answer inquiry).2.diagnostics.drop checker.diagnostics.length

/-- What the proper turns of a conversation come to, all turns being taken. -/
def transcript (checker : Checker) : List Turn → List Exchange
  | [] => []
  | .proper inquiry :: turns =>
      checker.exchange inquiry :: (checker.answer inquiry).2.transcript turns
  | .extra inquiry :: turns => (checker.answer inquiry).2.transcript turns

/-- What the turns of a conversation come to that has proper turns only. -/
def log (checker : Checker) (inquiries : List Inquiry) : List Exchange :=
  checker.transcript (inquiries.map .proper)

end Checker

/-! ## What a request reports -/

/-- The problems that a request meets with, in order. -/
def Request.problems (options : Options) : Request → List (Problem Ty)
  | .assign _ dest source => (dest.obstacle? options source).toList
  | .binary _ op left right => (op.check options left right).problems
  | .unary _ op operand => (op.check options operand).problems
  | .call _ callee args => (callee.checkCall options args).problems
  | _ => []

/-- The place of a request that can report something. -/
def Request.span : Request → Span
  | .assign span _ _ | .binary span _ _ _ | .unary span _ _
  | .call span _ _ => span
  | _ => .unplaced

/-- The diagnostics that a request adds, said without what a checker keeps. -/
def Request.findings (options : Options) (request : Request) :
    List Diagnostic :=
  (request.problems options).map (Problem.finding request.span)

/-- Whether a request leaves nothing of the diagnostics there were. -/
def Request.clears : Request → Bool
  | .take | .renew _ => true
  | _ => false

theorem Request.findings_of_clears {request : Request}
    (clears : request.clears = true) (options : Options) :
    request.findings options = [] := by
  cases request with
  | take | renew => rfl
  | construct | predeclared | intern | print | assign | binary | unary
  | call => cases clears

namespace Checker

theorem serve_findings {checker : Checker}
    (truthful : checker.arena.Truthful) (request : Request)
    (known : ∀ type ∈ request.operands, type ∈ checker.arena.types) :
    (checker.serve request).2.diagnostics =
      (if request.clears then [] else checker.diagnostics) ++
        request.findings checker.options := by
  have closed := truthful.wellFormed.closed
  cases request with
  | assign span dest source =>
      rw [Request.operands, List.forall_mem_cons, List.forall_mem_singleton]
        at known
      rw [serve, assign]
      cases found : dest.obstacle? checker.options source with
      | none => simp [Request.clears, Request.findings, Request.problems, found]
      | some problem =>
          have owned :=
            Ty.obstacle?_owned closed.components known.1 known.2 found
          simpa [Request.clears, Request.findings, Request.problems, found,
            Request.span] using report_finding truthful span owned
  | binary span op left right =>
      exact conclude_findings truthful span
        ((op.check_outcome checker.options left right).owned closed known)
  | unary span op operand =>
      exact conclude_findings truthful span
        ((op.check_outcome checker.options operand).owned closed known)
  | call span callee args =>
      rw [Request.operands, List.forall_mem_cons] at known
      exact conclude_findings truthful span
        (Ty.checkCall_owned closed checker.options known.1 known.2)
  | predeclared name =>
      rw [serve]
      split <;>
        exact (List.append_nil _).symm
  | construct | intern | print => exact (List.append_nil _).symm
  | take | renew => rfl

theorem exchange_added {checker : Checker}
    (truthful : checker.arena.Truthful) (request : Request)
    (known : ∀ type ∈ request.operands, type ∈ checker.arena.types) :
    (checker.exchange (.request request)).added =
      request.findings checker.options := by
  have diagnostics := serve_findings truthful request known
  change (checker.serve request).2.diagnostics.drop _ = _
  rw [diagnostics]
  split_ifs with clears
  · simp [Request.findings_of_clears clears]
  · exact List.drop_left

end Checker

/-! ## Arenas that agree -/

/-- The arenas have made the same types. -/
structure Arena.Agrees (left right : Arena) : Prop where
  types : left.types = right.types
  interned : left.interned = right.interned

/-- Two operations give one value and arenas that agree. -/
structure Arena.Concur {α : Type} (left right : α × Arena) : Prop where
  value : left.1 = right.1
  agrees : left.2.Agrees right.2

namespace Arena

theorem Concur.made {left right : Ty × Arena} (concur : Concur left right) :
    Concur (Arena.made left) (Arena.made right) where
  value := congrArg Except.ok concur.value
  agrees := concur.agrees

namespace Agrees

variable {left right : Arena}

theorem refl (arena : Arena) : arena.Agrees arena :=
  ⟨rfl, rfl⟩

theorem trans {middle : Arena} (first : left.Agrees middle)
    (second : middle.Agrees right) : left.Agrees right :=
  ⟨first.types.trans second.types, first.interned.trans second.interned⟩

theorem symm (agrees : left.Agrees right) : right.Agrees left :=
  ⟨agrees.types.symm, agrees.interned.symm⟩

theorem fresh (agrees : left.Agrees right) (name : Option Atom)
    (kind : Kind Ty) :
    Concur (left.fresh name kind) (right.fresh name kind) := by
  have ids : left.nextId = right.nextId := congrArg Array.size agrees.types
  refine ⟨?_, ?_, agrees.interned⟩
  · simp only [Arena.fresh, ids]
  · simp only [Arena.fresh, ids, agrees.types]

theorem unnamed (agrees : left.Agrees right) (kind : Kind Ty) :
    Concur (left.unnamed kind) (right.unnamed kind) := by
  have made := agrees.fresh none kind
  rw [Arena.unnamed, Arena.unnamed]
  cases kind.internKey? with
  | none => exact made
  | some key =>
      simp only [← agrees.interned]
      cases left.interned.get? key with
      | some type => exact ⟨rfl, agrees⟩
      | none =>
          refine ⟨made.value, made.agrees.types, ?_⟩
          change left.interned.insert key (left.fresh none kind).1 =
            right.interned.insert key (right.fresh none kind).1
          rw [agrees.interned, made.value]

theorem guarded (agrees : left.Agrees right) (allowed : Bool)
    (kind : Kind Ty) (error : ConstructionError) :
    Concur
      (if allowed then Arena.made (left.unnamed kind) else (.error error, left))
      (if allowed then Arena.made (right.unnamed kind)
        else (.error error, right)) := by
  split_ifs
  · exact (agrees.unnamed kind).made
  · exact ⟨rfl, agrees⟩

theorem struct (agrees : left.Agrees right) (fields : List (String × Ty)) :
    Concur (left.struct fields) (right.struct fields) := by
  rcases nodup_or_repeated (fields.map Prod.fst) with
    distinct | ⟨before, name, after, split, distinct, again⟩
  · rw [struct_of_nodup distinct, struct_of_nodup distinct]
    apply Concur.made
    apply unnamed
    exact ⟨agrees.types, agrees.interned⟩
  · rw [struct_of_repeated split distinct again,
      struct_of_repeated split distinct again]
    exact ⟨rfl, agrees.types, agrees.interned⟩

theorem declare (agrees : left.Agrees right) (leftTruthful : left.Truthful)
    (rightTruthful : right.Truthful) (name : String) {underlying : Ty}
    (known : underlying ∈ left.types) :
    Concur (left.declare name underlying) (right.declare name underlying) := by
  have alsoKnown : underlying ∈ right.types := agrees.types ▸ known
  rw [Arena.declare, Arena.declare]
  split_ifs with nameable
  · apply Concur.made
    apply fresh
    exact ⟨agrees.types, agrees.interned⟩
  · refine ⟨?_, agrees.types, agrees.interned⟩
    change Except.error (ConstructionError.cannotName (left.print _).1) =
      Except.error (ConstructionError.cannotName (right.print _).1)
    rw [leftTruthful.print_eq known, rightTruthful.print_eq alsoKnown]

/-- Arenas that agree make the same of a construction. -/
theorem construct (agrees : left.Agrees right)
    (leftTruthful : left.Truthful) (rightTruthful : right.Truthful)
    (construction : Construction)
    (known : ∀ type ∈ construction.operands, type ∈ left.types) :
    Concur (left.construct construction) (right.construct construction) := by
  cases construction with
  | int | uint | float => exact agrees.guarded _ _ _
  | struct fields => exact agrees.struct fields
  | literal text =>
      rw [Arena.construct, Arena.construct, Arena.literal, Arena.literal]
      split
      · exact (agrees.unnamed _).made
      · exact ⟨rfl, agrees⟩
  | floating value =>
      rw [Arena.construct, Arena.construct, Arena.floating, Arena.floating]
      split
      · exact (agrees.unnamed _).made
      · exact ⟨rfl, agrees⟩
  | declare name underlying =>
      exact agrees.declare leftTruthful rightTruthful name
        (known underlying List.mem_cons_self)
  | pointer | slice | array | nil | func | list | integer =>
      exact (agrees.unnamed _).made

/-- Arenas that agree find the same under a predeclared name. -/
theorem predeclared (agrees : left.Agrees right) (name : String) :
    (left.predeclared? name = none ∧ right.predeclared? name = none) ∨
      ∃ leftResult rightResult,
        left.predeclared? name = some leftResult ∧
          right.predeclared? name = some rightResult ∧
          Concur leftResult rightResult := by
  rw [Arena.predeclared?, Arena.predeclared?]
  cases predeclaredKinds.lookup name with
  | none => exact Or.inl ⟨rfl, rfl⟩
  | some kind =>
      refine Or.inr ⟨_, _, rfl, rfl, ?_⟩
      dsimp only
      split
      · exact ⟨rfl, agrees⟩
      · exact ⟨rfl, agrees⟩
      · exact ⟨rfl, agrees⟩
      · exact agrees.unnamed _

end Agrees

end Arena

/-! ## Checkers that agree -/

/--
How the diagnostics of two checkers may differ, so that it stays so when both
add the same.
-/
structure Tolerance (related : List Diagnostic → List Diagnostic → Prop) :
    Prop where
  refl : ∀ diagnostics, related diagnostics diagnostics
  trans : ∀ left middle right,
    related left middle → related middle right → related left right
  append : ∀ left right added,
    related left right → related (left ++ added) (right ++ added)

theorem Tolerance.eq : Tolerance Eq where
  refl _ := rfl
  trans _ _ _ := Eq.trans
  append _ _ added same := congrArg (· ++ added) same

/-- The checkers have made the same types and follow the same rules. -/
structure Checker.Agrees
    (related : List Diagnostic → List Diagnostic → Prop)
    (left right : Checker) : Prop where
  arena : left.arena.Agrees right.arena
  options : left.options = right.options
  diagnostics : related left.diagnostics right.diagnostics
  leftTruthful : left.arena.Truthful
  rightTruthful : right.arena.Truthful

/-- Two answers are one, but for which diagnostics have been taken away. -/
inductive Response.Agrees
    (related : List Diagnostic → List Diagnostic → Prop) :
    Response → Response → Prop where
  | same (response : Response) : Agrees related response response
  | taken {left right : List Diagnostic} (kept : related left right) :
      Agrees related (.reply (.taken left)) (.reply (.taken right))

/-- Two turns come to one answer and add the same diagnostics. -/
structure Exchange.Agrees
    (related : List Diagnostic → List Diagnostic → Prop)
    (left right : Exchange) : Prop where
  response : Response.Agrees related left.response right.response
  added : left.added = right.added

theorem Exchange.Agrees.eq {left right : Exchange}
    (agrees : Agrees Eq left right) : left = right := by
  rcases left with ⟨leftResponse, added⟩
  rcases right with ⟨rightResponse, _⟩
  rcases agrees with ⟨response, rfl⟩
  cases response with
  | same => rfl
  | taken kept => rw [kept]

namespace Checker

theorem reportAll_agrees (checker : Checker) (span : Span)
    (problems : List (Problem Ty)) :
    (checker.reportAll span problems).arena.Agrees checker.arena := by
  induction problems generalizing checker with
  | nil => exact .refl _
  | cons problem problems inductionHypothesis =>
      exact (inductionHypothesis (checker.report span problem)).trans
        ⟨rfl, rfl⟩

theorem reportAll_options (checker : Checker) (span : Span)
    (problems : List (Problem Ty)) :
    (checker.reportAll span problems).options = checker.options := by
  induction problems generalizing checker with
  | nil => rfl
  | cons problem problems inductionHypothesis =>
      exact inductionHypothesis (checker.report span problem)

theorem conclude_options (checker : Checker) (span : Span)
    (verdict : Verdict) :
    (checker.conclude span verdict).2.options = checker.options := by
  rw [conclude]
  cases verdict.result <;>
    exact checker.reportAll_options span verdict.problems

theorem conclude_concur {left right : Checker}
    (agrees : left.arena.Agrees right.arena) (span : Span)
    (verdict : Verdict) :
    (left.conclude span verdict).1 = (right.conclude span verdict).1 ∧
      (left.conclude span verdict).2.arena.Agrees
        (right.conclude span verdict).2.arena := by
  have reported :=
    (left.reportAll_agrees span verdict.problems).trans
      (agrees.trans (right.reportAll_agrees span verdict.problems).symm)
  rw [conclude, conclude]
  cases verdict.result with
  | type type => exact ⟨rfl, reported⟩
  | constant constant =>
      have concur := reported.unnamed (.untyped constant)
      exact ⟨concur.value, concur.agrees⟩
  | pointerTo base =>
      have concur := reported.unnamed (.pointer base)
      exact ⟨concur.value, concur.agrees⟩

namespace Agrees

variable {related : List Diagnostic → List Diagnostic → Prop}
  {left right : Checker}

theorem serve_concur (agrees : Agrees related left right) (request : Request)
    (known : ∀ type ∈ request.operands, type ∈ left.arena.types) :
    Response.Agrees related (.reply (left.serve request).1)
        (.reply (right.serve request).1) ∧
      (left.serve request).2.arena.Agrees (right.serve request).2.arena ∧
      (left.serve request).2.options = (right.serve request).2.options := by
  have concluded (span : Span) (verdict : Verdict) :
      Response.Agrees related (.reply (.type (left.conclude span verdict).1))
          (.reply (.type (right.conclude span verdict).1)) ∧
        (left.conclude span verdict).2.arena.Agrees
          (right.conclude span verdict).2.arena ∧
        (left.conclude span verdict).2.options =
          (right.conclude span verdict).2.options := by
    rcases conclude_concur agrees.arena span verdict with ⟨value, arenas⟩
    rw [value, conclude_options, conclude_options]
    exact ⟨.same _, arenas, agrees.options⟩
  cases request with
  | construct construction =>
      have concur := agrees.arena.construct agrees.leftTruthful
        agrees.rightTruthful construction known
      refine ⟨?_, concur.agrees, agrees.options⟩
      change Response.Agrees related
        (.reply (.made (left.arena.construct construction).1))
        (.reply (.made (right.arena.construct construction).1))
      rw [concur.value]
      exact .same _
  | predeclared name =>
      rw [serve, serve]
      rcases agrees.arena.predeclared name with
        ⟨leftNone, rightNone⟩ | ⟨_, _, leftFound, rightFound, concur⟩
      · rw [leftNone, rightNone]
        exact ⟨.same _, agrees.arena, agrees.options⟩
      · rw [leftFound, rightFound]
        refine ⟨?_, concur.agrees, agrees.options⟩
        simp only [withArena, Prod.map_fst, concur.value]
        exact .same _
  | intern text => exact ⟨.same _, ⟨agrees.arena.types, agrees.arena.interned⟩,
      agrees.options⟩
  | print type =>
      have leftKnown := known type List.mem_cons_self
      have rightKnown : type ∈ right.arena.types :=
        agrees.arena.types ▸ leftKnown
      refine ⟨?_, ⟨agrees.arena.types, agrees.arena.interned⟩, agrees.options⟩
      change Response.Agrees related (.reply (.text (left.arena.print type).1))
        (.reply (.text (right.arena.print type).1))
      rw [agrees.leftTruthful.print_eq leftKnown,
        agrees.rightTruthful.print_eq rightKnown]
      exact .same _
  | assign span dest source =>
      rw [serve, serve, assign, assign, ← agrees.options]
      cases dest.obstacle? left.options source with
      | none => exact ⟨.same _, agrees.arena, agrees.options⟩
      | some problem =>
          exact ⟨.same _, ⟨agrees.arena.types, agrees.arena.interned⟩,
            agrees.options⟩
  | binary span op first second =>
      rw [serve, serve, binary, binary, ← agrees.options]
      exact concluded span _
  | unary span op operand =>
      rw [serve, serve, unary, unary, ← agrees.options]
      exact concluded span _
  | call span callee args =>
      rw [serve, serve, call, call, ← agrees.options]
      exact concluded span _
  | take => exact ⟨.taken agrees.diagnostics, agrees.arena, agrees.options⟩
  | renew options => exact ⟨.same _, agrees.arena, rfl⟩

/-- One request leads checkers that agree to checkers that agree. -/
theorem serve (tolerance : Tolerance related)
    (agrees : Agrees related left right) (request : Request)
    (known : ∀ type ∈ request.operands, type ∈ left.arena.types) :
    Agrees related (left.serve request).2 (right.serve request).2 := by
  have alsoKnown : ∀ type ∈ request.operands, type ∈ right.arena.types :=
    agrees.arena.types ▸ known
  rcases agrees.serve_concur request known with ⟨-, arenas, options⟩
  refine ⟨arenas, options, ?_, serve_truthful agrees.leftTruthful request known,
    serve_truthful agrees.rightTruthful request alsoKnown⟩
  rw [serve_findings agrees.leftTruthful request known,
    serve_findings agrees.rightTruthful request alsoKnown, agrees.options]
  apply tolerance.append
  split_ifs
  · exact tolerance.refl []
  · exact agrees.diagnostics

/-- One inquiry comes to the same and leads to checkers that agree. -/
theorem answer (tolerance : Tolerance related)
    (agrees : Agrees related left right) (inquiry : Inquiry)
    (known : ∀ type ∈ inquiry.operands, type ∈ left.arena.types) :
    Exchange.Agrees related (left.exchange inquiry) (right.exchange inquiry) ∧
      Agrees related (left.answer inquiry).2 (right.answer inquiry).2 := by
  cases inquiry with
  | request request =>
      have alsoKnown : ∀ type ∈ request.operands, type ∈ right.arena.types :=
        agrees.arena.types ▸ known
      refine ⟨⟨(agrees.serve_concur request known).1, ?_⟩,
        agrees.serve tolerance request known⟩
      rw [exchange_added agrees.leftTruthful request known,
        exchange_added agrees.rightTruthful request alsoKnown, agrees.options]
  | relate first second =>
      refine ⟨⟨.same _, ?_⟩, agrees⟩
      simp [exchange, Checker.answer]
  | field type name =>
      refine ⟨⟨.same _, ?_⟩, agrees⟩
      simp [exchange, Checker.answer]

end Agrees

end Checker

/-! ## Turns that leave no trace -/

/--
An inquiry that makes no type: a type is spelled, a construction fails, or an
operation meets with a problem and reports it.
-/
inductive Inquiry.Idle (checker : Checker) : Inquiry → Prop where
  | print (type : Ty) : Idle checker (.request (.print type))
  | failed {construction : Construction} {error : ConstructionError}
      (failed : (checker.arena.construct construction).1 = .error error) :
      Idle checker (.request (.construct construction))
  | reported {own : Request} (problems : own.problems checker.options ≠ []) :
      Idle checker (.request own)

/-- Whether an inquiry can be idle without reporting anything. -/
def Inquiry.isQuiet : Inquiry → Bool
  | .request (.print _) | .request (.construct _) => true
  | _ => false

/-- A conversation about types of the arena, with extra turns that are idle. -/
inductive Checker.Admits : Checker → List Turn → Prop where
  | done (checker : Checker) : Admits checker []
  | proper {checker : Checker} {inquiry : Inquiry} {turns : List Turn}
      (known : ∀ type ∈ inquiry.operands, type ∈ checker.arena.types)
      (rest : Admits (checker.answer inquiry).2 turns) :
      Admits checker (.proper inquiry :: turns)
  | extra {checker : Checker} {inquiry : Inquiry} {turns : List Turn}
      (known : ∀ type ∈ inquiry.operands, type ∈ checker.arena.types)
      (idle : inquiry.Idle checker)
      (rest : Admits (checker.answer inquiry).2 turns) :
      Admits checker (.extra inquiry :: turns)

theorem Arena.agrees_of_guarded {arena : Arena} {allowed : Bool}
    {result : Ty × Arena} {own error : ConstructionError}
    (failed :
      (if allowed then Arena.made result else (.error own, arena)).1 =
        .error error) :
    arena.Agrees
      (if allowed then Arena.made result else (.error own, arena)).2 := by
  split_ifs at failed ⊢
  · cases failed
  · exact .refl arena

/-- A construction that fails makes no type. -/
theorem Arena.construct_agrees_of_error {arena : Arena}
    {construction : Construction} {error : ConstructionError}
    (failed : (arena.construct construction).1 = .error error) :
    arena.Agrees (arena.construct construction).2 := by
  cases construction with
  | int | uint | float => exact Arena.agrees_of_guarded failed
  | struct fields =>
      rw [Arena.construct] at failed ⊢
      rcases arena.struct_cases fields with
        ⟨-, made⟩ | ⟨_, _, _, -, -, -, refused⟩
      · rw [made] at failed
        cases failed
      · -- Names have texts by then, but agreement is about types only.
        rw [refused]
        exact ⟨rfl, rfl⟩
  | literal text =>
      rw [Arena.construct, Arena.literal] at failed ⊢
      split at failed
      · cases failed
      · exact .refl arena
  | floating value =>
      rw [Arena.construct, Arena.floating] at failed ⊢
      split at failed
      · cases failed
      · exact .refl arena
  | declare name underlying =>
      rw [Arena.construct, Arena.declare] at failed ⊢
      split_ifs at failed ⊢
      · cases failed
      · exact ⟨rfl, rfl⟩
  | pointer | slice | array | nil | func | list | integer => cases failed

theorem Ty.checkCall_result (callee : Ty) (options : Options)
    (args : List Ty) :
    ∃ type, (callee.checkCall options args).result = .type type := by
  unfold Ty.checkCall
  split <;> exact ⟨_, rfl⟩

namespace Checker

/-- A verdict that yields a type there is makes none. -/
theorem conclude_agrees_of_type (checker : Checker) (span : Span)
    {verdict : Verdict} {type : Ty} (settled : verdict.result = .type type) :
    checker.arena.Agrees (checker.conclude span verdict).2.arena := by
  rw [conclude, settled]
  exact (checker.reportAll_agrees span verdict.problems).symm

/-- A request that meets with a problem makes no type. -/
theorem serve_agrees_of_problems {checker : Checker} {request : Request}
    (problems : request.problems checker.options ≠ []) :
    checker.arena.Agrees (checker.serve request).2.arena ∧
      (checker.serve request).2.options = checker.options := by
  cases request with
  | assign span dest source =>
      rw [serve, assign]
      cases dest.obstacle? checker.options source with
      | none => exact ⟨.refl _, rfl⟩
      | some problem => exact ⟨⟨rfl, rfl⟩, rfl⟩
  | binary span op left right =>
      have honest := (op.check_outcome checker.options left right).honest
      exact ⟨checker.conclude_agrees_of_type span (honest.unknown problems),
        checker.conclude_options span _⟩
  | unary span op operand =>
      have honest := (op.check_outcome checker.options operand).honest
      exact ⟨checker.conclude_agrees_of_type span (honest.unknown problems),
        checker.conclude_options span _⟩
  | call span callee args =>
      -- A call can meet with problems and yield a type, but never a new one.
      rcases callee.checkCall_result checker.options args with ⟨type, settled⟩
      exact ⟨checker.conclude_agrees_of_type span settled,
        checker.conclude_options span _⟩
  | construct | predeclared | intern | print | take | renew =>
      exact absurd rfl problems

end Checker

namespace Inquiry.Idle

variable {checker : Checker} {inquiry : Inquiry}

theorem agrees (idle : inquiry.Idle checker) :
    checker.arena.Agrees (checker.answer inquiry).2.arena ∧
      (checker.answer inquiry).2.options = checker.options := by
  cases idle with
  | print type => exact ⟨⟨rfl, rfl⟩, rfl⟩
  | failed failed => exact ⟨Arena.construct_agrees_of_error failed, rfl⟩
  | reported problems => exact Checker.serve_agrees_of_problems problems

theorem diagnostics_eq (idle : inquiry.Idle checker)
    (quiet : inquiry.isQuiet = true) :
    checker.diagnostics = (checker.answer inquiry).2.diagnostics := by
  cases idle with
  | print type => rfl
  | failed failed => rfl
  | @reported request problems =>
      cases request with
      | construct | print => rfl
      | predeclared | intern | assign | binary | unary | call | take
      | renew => cases quiet

end Inquiry.Idle

namespace Checker.Agrees

variable {related : List Diagnostic → List Diagnostic → Prop}
  {left right : Checker}

/-- An idle turn of one checker only leaves it in agreement with the other. -/
theorem idle (tolerance : Tolerance related)
    (agrees : Agrees related left right) {inquiry : Inquiry}
    (known : ∀ type ∈ inquiry.operands, type ∈ right.arena.types)
    (idle : inquiry.Idle right)
    (kept :
      related right.diagnostics (right.answer inquiry).2.diagnostics) :
    Agrees related left (right.answer inquiry).2 := by
  rcases idle.agrees with ⟨arenas, options⟩
  have truthful : (right.answer inquiry).2.arena.Truthful := by
    cases inquiry with
    | request request =>
        exact serve_truthful agrees.rightTruthful request known
    | relate | field => exact agrees.rightTruthful
  exact ⟨agrees.arena.trans arenas, agrees.options.trans options.symm,
    tolerance.trans _ _ _ agrees.diagnostics kept, agrees.leftTruthful,
    truthful⟩

/--
Two conversations, one with idle turns put in, come to the same turn by turn.
What the idle turns may do to the diagnostics is left open here.
-/
theorem transcript (tolerance : Tolerance related) {turns : List Turn}
    (agrees : Agrees related left right) (admits : right.Admits turns)
    (kept :
      ∀ inquiry, .extra inquiry ∈ turns → ∀ checker : Checker,
        checker.arena.Truthful →
          (∀ type ∈ inquiry.operands, type ∈ checker.arena.types) →
          inquiry.Idle checker →
          related checker.diagnostics
            (checker.answer inquiry).2.diagnostics) :
    List.Forall₂ (Exchange.Agrees related)
      (left.transcript (turns.filter Turn.isProper))
      (right.transcript turns) := by
  -- The checker on the right takes every turn, the one on the left only those
  -- that are proper; the invariant is that the two agree.
  induction admits generalizing left with
  | done checker => exact .nil
  | proper known rest inductionHypothesis =>
      have leftKnown := agrees.arena.types.symm ▸ known
      rcases agrees.answer tolerance _ leftKnown with ⟨same, after⟩
      rw [List.filter_cons_of_pos rfl]
      refine .cons same (inductionHypothesis after ?_)
      intro inquiry member
      exact kept inquiry (List.mem_cons_of_mem _ member)
  | extra known idle rest inductionHypothesis =>
      rw [List.filter_cons_of_neg Bool.false_ne_true]
      refine inductionHypothesis (agrees.idle tolerance known idle ?_) ?_
      · exact kept _ List.mem_cons_self _ agrees.rightTruthful known idle
      · intro inquiry member
        exact kept inquiry (List.mem_cons_of_mem _ member)

end Checker.Agrees

namespace Checker

/-- Idle turns that report nothing can be left out without a trace. -/
theorem Agrees.transcript_eq {left right : Checker} {turns : List Turn}
    (agrees : Agrees Eq left right) (admits : right.Admits turns)
    (quiet : ∀ inquiry, .extra inquiry ∈ turns → inquiry.isQuiet = true) :
    left.transcript (turns.filter Turn.isProper) = right.transcript turns := by
  have each := agrees.transcript .eq admits fun inquiry member _ _ _ idle =>
    idle.diagnostics_eq (quiet inquiry member)
  have same := each.imp fun _ _ => Exchange.Agrees.eq
  rwa [List.forall₂_eq_eq_eq] at same

/-! ## Spelling is transparent -/

/-- A run that makes the slices of truth values. -/
def slicedRun : Checker :=
  ((initial .standard).serve (.construct (.slice Ty.bool))).2

theorem slicedRun_reachable : slicedRun.Reachable :=
  .serve _ (.initial .standard)
    (List.forall_mem_singleton.mpr (Array.mem_of_getElem? (i := 4) rfl))

/--
A construction that fails leaves no trace: whatever a client asks from then on,
the answers and the diagnostics are those of the run without the construction.
-/
theorem failed_construction_invisible {checker : Checker}
    (reachable : checker.Reachable) {construction : Construction}
    (known :
      ∀ type ∈ construction.operands, type ∈ checker.arena.types)
    {error : ConstructionError}
    (failed :
      (checker.serve (.construct construction)).1 = .made (.error error))
    {later : List Inquiry}
    (permitted : checker.Admits (later.map .proper)) :
    (checker.serve (.construct construction)).2.log later =
      checker.log later := by
  have truthful := reachable.truthful
  have idle :
      (Inquiry.request (.construct construction)).Idle checker :=
    .failed (Reply.made.inj failed)
  have arenas := idle.agrees.1
  have agrees :
      Agrees Eq (checker.serve (.construct construction)).2 checker :=
    ⟨arenas.symm, rfl, rfl, serve_truthful truthful _ known, truthful⟩
  have proper :
      (later.map Turn.proper).filter Turn.isProper = later.map Turn.proper := by
    apply List.filter_eq_self.mpr
    simp [Turn.isProper]
  have same := agrees.transcript_eq permitted (by simp)
  rw [proper] at same
  exact same

/-- A structure whose two fields would have one name. -/
def twiceSet : Construction :=
  .struct [("set", Ty.bool), ("set", Ty.string)]

/--
What the client goes on to ask: a structure with the field of that name, its
spelling and what the field holds.
-/
def setInquiries : List Inquiry :=
  [.request (.construct (.struct [("set", Ty.flags)])),
    .request (.print ⟨7, none, .struct [⟨⟨"set"⟩, Ty.flags⟩]⟩),
    .field ⟨7, none, .struct [⟨⟨"set"⟩, Ty.flags⟩]⟩ ⟨"set"⟩]

theorem failed_construction_invisible_twiceSet :
    (slicedRun.serve (.construct twiceSet)).1 =
        .made (.error (.duplicateField "set")) ∧
      slicedRun.arena.shown ⟨"set"⟩ = "" ∧
      (slicedRun.serve (.construct twiceSet)).2.arena.shown ⟨"set"⟩ = "set" ∧
      (slicedRun.serve (.construct twiceSet)).2.log setInquiries =
        slicedRun.log setInquiries := by
  have failed :
      (slicedRun.serve (.construct twiceSet)).1 =
        .made (.error (.duplicateField "set")) :=
    rfl
  refine ⟨failed, rfl, rfl,
    failed_construction_invisible slicedRun_reachable ?_ failed ?_⟩
  · exact List.forall_mem_cons.mpr ⟨Array.mem_of_getElem? (i := 4) rfl,
      List.forall_mem_singleton.mpr (Array.mem_of_getElem? (i := 5) rfl)⟩
  refine .proper ?_ (.proper ?_ (.proper ?_ (.done _)))
  · exact List.forall_mem_singleton.mpr (Array.mem_of_getElem? (i := 6) rfl)
  · exact List.forall_mem_singleton.mpr (Array.mem_of_getElem? (i := 7) rfl)
  · exact List.forall_mem_singleton.mpr (Array.mem_of_getElem? (i := 7) rfl)

end Checker

end TypeRules
