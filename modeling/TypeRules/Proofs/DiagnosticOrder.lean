import TypeRules.Proofs.StrictRuns

/-!
# Diagnostics are kept in order and at their places

A checker collects diagnostics until a client takes them away.  In between it
only ever appends, and what an operation appends bears the place of that
operation, from whatever depth of nested types it comes.

The *journal* of a dialogue lists what its inquiries report, in order, without
looking at the diagnostics that the checker has collected.  The main result is
that the lists a client takes away, one after another, and what is left in the
end make up the journal.  A dialogue in steps, in which every problem is pushed
where it is met with, is the same dialogue, so this holds of it as well.
-/

namespace TypeRules

/-! ## Dialogues in steps -/

namespace Stepwise

/-- Do what a client asks for; operations that can report go in steps. -/
def serve : Request → CheckM Reply
  | .assign span dest source => .accepted <$> assign span dest source
  | .binary span op left right => .type <$> binary span op left right
  | .unary span op operand => .type <$> unary span op operand
  | .call span callee args => .type <$> call span callee args
  | request => modifyGet fun checker => checker.serve request

/-- Answer an inquiry. -/
def answer : Inquiry → CheckM Response
  | .request request => .reply <$> serve request
  | inquiry => modifyGet fun checker => checker.answer inquiry

/-- Answer inquiries one after another. -/
def dialogue : List Inquiry → CheckM (List Response)
  | [] => return []
  | inquiry :: inquiries =>
      return (← answer inquiry) :: (← dialogue inquiries)

theorem serve_run (request : Request) (checker : Checker) :
    (serve request).run checker = checker.serve request := by
  cases request with
  | assign span dest source =>
      rw [serve, StateT.run_map, assign_run]
      rfl
  | binary span op left right =>
      rw [serve, StateT.run_map, binary_run]
      rfl
  | unary span op operand =>
      rw [serve, StateT.run_map, unary_run]
      rfl
  | call span callee args =>
      rw [serve, StateT.run_map, call_run]
      rfl
  | construct | predeclared | intern | print | take | renew => rfl

theorem answer_run (inquiry : Inquiry) (checker : Checker) :
    (answer inquiry).run checker = checker.answer inquiry := by
  cases inquiry with
  | request request =>
      rw [answer, StateT.run_map, serve_run]
      rfl
  | relate | field => rfl

/-- A dialogue in steps is a dialogue. -/
theorem dialogue_run (inquiries : List Inquiry) (checker : Checker) :
    (dialogue inquiries).run checker = checker.dialogue inquiries := by
  induction inquiries generalizing checker with
  | nil => rfl
  | cons inquiry inquiries inductionHypothesis =>
      rw [dialogue, StateT.run_bind, answer_run]
      change
        ((do return _ :: (← dialogue inquiries) : CheckM _).run
          (checker.answer inquiry).2) = _
      rw [StateT.run_bind, inductionHypothesis]
      rfl

end Stepwise

namespace Checker

/-! ## What is reported -/

/-- The diagnostics of problems that are reported one after another. -/
def diagnosticsOf (checker : Checker) (span : Span) :
    List (Problem Ty) → List Diagnostic
  | [] => []
  | problem :: problems =>
      checker.diagnosticOf span problem ::
        (checker.report span problem).diagnosticsOf span problems

theorem reportAll_diagnostics_eq (checker : Checker) (span : Span)
    (problems : List (Problem Ty)) :
    (checker.reportAll span problems).diagnostics =
      checker.diagnostics ++ checker.diagnosticsOf span problems := by
  induction problems generalizing checker with
  | nil => exact (List.append_nil _).symm
  | cons problem problems inductionHypothesis =>
      have later := inductionHypothesis (checker.report span problem)
      rw [report_diagnostics_eq, List.append_assoc] at later
      exact later

theorem conclude_diagnostics_eq (checker : Checker) (span : Span)
    (verdict : Verdict) :
    (checker.conclude span verdict).2.diagnostics =
      checker.diagnostics ++
        checker.diagnosticsOf span verdict.problems := by
  rw [conclude, realize_diagnostics, reportAll_diagnostics_eq]

theorem span_of_mem_diagnosticsOf {checker : Checker} {span : Span}
    {problems : List (Problem Ty)} {diagnostic : Diagnostic}
    (member : diagnostic ∈ checker.diagnosticsOf span problems) :
    diagnostic.span = span := by
  induction problems generalizing checker with
  | nil => cases member
  | cons problem problems inductionHypothesis =>
      rcases List.mem_cons.mp member with rfl | later
      · rfl
      · exact inductionHypothesis later

end Checker

/-- The place of an inquiry that can report something. -/
def Inquiry.span : Inquiry → Span
  | .request own => own.span
  | .relate _ _ | .field _ _ => .unplaced

/-- The problems that an inquiry meets with, in order. -/
def Inquiry.problems (options : Options) : Inquiry → List (Problem Ty)
  | .request own => own.problems options
  | .relate _ _ | .field _ _ => []

/-- The diagnostics that an answer hands over. -/
def Response.diagnostics : Response → List Diagnostic
  | .reply (.taken diagnostics) => diagnostics
  | _ => []

namespace Checker

/-- What an inquiry reports: each problem that it meets with, at its place. -/
def reports (checker : Checker) (inquiry : Inquiry) : List Diagnostic :=
  checker.diagnosticsOf inquiry.span (inquiry.problems checker.options)

/-- What the inquiries of a dialogue report. -/
def journal (checker : Checker) : List Inquiry → List Diagnostic
  | [] => []
  | inquiry :: inquiries =>
      checker.reports inquiry ++ (checker.answer inquiry).2.journal inquiries

/-! ## One inquiry -/

theorem serve_diagnostics_eq (checker : Checker) (request : Request) :
    (checker.serve request).2.diagnostics =
      (if request.clears then [] else checker.diagnostics) ++
        checker.reports (.request request) := by
  cases request with
  | assign span dest source =>
      rw [serve, assign]
      cases found : dest.obstacle? checker.options source with
      | none =>
          simp [Request.clears, reports, Inquiry.problems, Request.problems,
            found, diagnosticsOf]
      | some problem =>
          simp [Request.clears, reports, Inquiry.problems, Inquiry.span,
            Request.problems, Request.span, found, diagnosticsOf,
            report_diagnostics_eq]
  | binary span op left right => exact checker.conclude_diagnostics_eq span _
  | unary span op operand => exact checker.conclude_diagnostics_eq span _
  | call span callee args => exact checker.conclude_diagnostics_eq span _
  | predeclared name =>
      rw [serve]
      split <;>
        exact (List.append_nil _).symm
  | construct | intern | print => exact (List.append_nil _).symm
  | take | renew => rfl

/-- An inquiry that does not take diagnostics away appends what it reports. -/
theorem answer_diagnostics_eq (checker : Checker) {inquiry : Inquiry}
    (notTake : inquiry ≠ .request .take)
    (notRenew : ∀ options, inquiry ≠ .request (.renew options)) :
    (checker.answer inquiry).2.diagnostics =
      checker.diagnostics ++ checker.reports inquiry := by
  cases inquiry with
  | relate | field => exact (List.append_nil _).symm
  | request request =>
      have kept : request.clears = false := by
        cases request with
        | take => exact absurd rfl notTake
        | renew options => exact absurd rfl (notRenew options)
        | construct | predeclared | intern | print | assign | binary | unary
        | call => rfl
      have served := checker.serve_diagnostics_eq request
      rw [kept] at served
      exact served

/-- What is handed over and what is left are what there was and what is new. -/
theorem answer_conserves (checker : Checker) {inquiry : Inquiry}
    (notRenew : ∀ options, inquiry ≠ .request (.renew options)) :
    (checker.answer inquiry).1.diagnostics ++
        (checker.answer inquiry).2.diagnostics =
      checker.diagnostics ++ checker.reports inquiry := by
  by_cases take : inquiry = .request .take
  · subst take
    rfl
  · have nothing : (checker.answer inquiry).1.diagnostics = [] := by
      cases inquiry with
      | relate | field => rfl
      | request request =>
          cases request with
          | take => exact absurd rfl take
          | predeclared name =>
              rw [answer, serve]
              split <;> rfl
          | construct | intern | print | assign | binary | unary | call
          | renew => rfl
    rw [nothing, List.nil_append]
    exact checker.answer_diagnostics_eq take notRenew

/-! ## Dialogues -/

/-- What is handed over in a dialogue and what it leaves. -/
theorem dialogue_conserves (checker : Checker) {inquiries : List Inquiry}
    (notRenew : ∀ options, .request (.renew options) ∉ inquiries) :
    (checker.dialogue inquiries).1.flatMap Response.diagnostics ++
        (checker.dialogue inquiries).2.diagnostics =
      checker.diagnostics ++ checker.journal inquiries := by
  induction inquiries generalizing checker with
  | nil => exact (List.append_nil _).symm
  | cons inquiry inquiries inductionHypothesis =>
      have first := checker.answer_conserves fun options isRenew =>
        notRenew options (isRenew ▸ List.mem_cons_self)
      have later := inductionHypothesis (checker.answer inquiry).2
        fun options member => notRenew options (List.mem_cons_of_mem _ member)
      calc
        (checker.dialogue (inquiry :: inquiries)).1.flatMap
              Response.diagnostics ++
            (checker.dialogue (inquiry :: inquiries)).2.diagnostics
          = (checker.answer inquiry).1.diagnostics ++
              (((checker.answer inquiry).2.dialogue inquiries).1.flatMap
                  Response.diagnostics ++
                ((checker.answer inquiry).2.dialogue inquiries).2.diagnostics)
            := List.append_assoc ..
        _ = (checker.answer inquiry).1.diagnostics ++
              ((checker.answer inquiry).2.diagnostics ++
                (checker.answer inquiry).2.journal inquiries) := by
            rw [later]
        _ = checker.diagnostics ++ checker.journal (inquiry :: inquiries) := by
            rw [← List.append_assoc, first, List.append_assoc, journal]

/--
A dialogue with one checker is the same in steps, each problem being pushed
where it is met with.  Every inquiry that does not take the diagnostics away
appends what it reports to those there are, and all of that bears the place of
the inquiry.  The lists that are taken away, in order, and the one that is left
are the diagnostics of the beginning and all that is ever reported: nothing is
lost, repeated or moved.
-/
theorem diagnostics_conserved (checker : Checker) (inquiries : List Inquiry)
    (notRenew : ∀ options, .request (.renew options) ∉ inquiries) :
    (Stepwise.dialogue inquiries).run checker = checker.dialogue inquiries ∧
      (∀ before inquiry after, inquiries = before ++ inquiry :: after →
        inquiry ≠ .request .take →
        let reached := (checker.dialogue before).2
        (reached.answer inquiry).2.diagnostics =
            reached.diagnostics ++ reached.reports inquiry ∧
          ∀ diagnostic ∈ reached.reports inquiry,
            diagnostic.span = inquiry.span) ∧
      (checker.dialogue inquiries).1.flatMap Response.diagnostics ++
          (checker.dialogue inquiries).2.diagnostics =
        checker.diagnostics ++ checker.journal inquiries := by
  refine ⟨Stepwise.dialogue_run inquiries checker, ?_,
    checker.dialogue_conserves notRenew⟩
  intro before inquiry after split notTake
  refine ⟨answer_diagnostics_eq _ notTake fun options isRenew =>
    notRenew options ?_, fun _ => span_of_mem_diagnosticsOf⟩
  rw [split, ← isRenew]
  exact List.mem_append_right _ List.mem_cons_self

/-- The place of the given number. -/
def place (number : UInt32) : Span :=
  ⟨number, number + 1, .root⟩

/-- A call with a flag in place of a text and nothing in place of another. -/
def misuse : Inquiry :=
  .request (.call (place 2) ⟨6, none, .func [Ty.string, Ty.string] []⟩
    [Ty.bool])

/-- A text is assigned to a flag, and what is found is taken away. -/
def misuses : List Inquiry :=
  [.request (.assign (place 1) Ty.bool Ty.string), .request .take,
    .request (.unary (place 3) .not Ty.string), misuse]

theorem diagnostics_conserved_misuses :
    let asked := (initial .standard).dialogue misuses
    let reached := ((initial .standard).dialogue (misuses.take 3)).2
    (∀ options, .request (.renew options) ∉ misuses) ∧
      misuse ≠ .request .take ∧
      (Stepwise.dialogue misuses).run (initial .standard) = asked ∧
      asked.1.flatMap Response.diagnostics ++ asked.2.diagnostics =
        (initial .standard).journal misuses ∧
      ((initial .standard).journal misuses).map Diagnostic.span =
        [place 1, place 3, place 2, place 2] ∧
      (reached.answer misuse).2.diagnostics =
        reached.diagnostics ++ reached.reports misuse := by
  have notRenew : ∀ options, .request (.renew options) ∉ misuses := by
    simp [misuses, misuse]
  have notTake : misuse ≠ .request .take := by
    simp [misuse]
  have conserved := diagnostics_conserved (initial .standard) misuses notRenew
  have added := conserved.2.1 (misuses.take 3) misuse [] rfl notTake
  exact ⟨notRenew, notTake, conserved.1, conserved.2.2, by decide, added.1⟩

end Checker

end TypeRules
