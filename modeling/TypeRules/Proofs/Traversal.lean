import TypeRules.Arena.Print
import TypeRules.Proofs.Outcomes
import TypeRules.Ty.Induction

/-!
# Going through the components of a type

To spell a type is to spell its components one after another and to put the
spellings together.  `Kind.mapM` is the first of the two: it carries out a
computation for each component, in the order in which they are written, and
gives the kind with the values in the place of the components.

Computations of two monads can be related in several ways.  A relation goes in
*lockstep* if it holds between values that are given outright and passes from
the parts of a sequence to the whole.  What relates the computations for the
components of a kind then relates those for the kind, and an induction over
types leaves to each relation no more than the step from a kind to its type.
-/

namespace TypeRules

section

variable {m n : Type → Type} [Monad m] [Monad n] {σ τ : Type}

/-! ## Traversals -/

/-- Carry out a computation for what a field holds. -/
def Field.mapM (visit : τ → m σ) (field : Field τ) : m (Field σ) :=
  return ⟨field.name, ← visit field.type⟩

/-- Carry out a computation for each component of a kind, in order. -/
def Kind.mapM (visit : τ → m σ) : Kind τ → m (Kind σ)
  | .bool => return .bool
  | .string => return .string
  | .int width => return .int width
  | .uint width => return .uint width
  | .float width => return .float width
  | .pointer base => return .pointer (← visit base)
  | .array length element => return .array length (← visit element)
  | .slice element => return .slice (← visit element)
  | .struct fields => return .struct (← fields.mapM' (Field.mapM visit))
  | .func params results =>
      return .func (← params.mapM' visit) (← results.mapM' visit)
  | .list types => return .list (← types.mapM' visit)
  | .untyped constant => return .untyped constant
  | .unknown => return .unknown
  | .any => return .any
  | .void => return .void
  | .variadicAny => return .variadicAny

/-! ## Relations between computations -/

/-- A relation between computations that sequences keep. -/
structure Lockstep (related : (α : Type) → m α → n α → Prop) : Prop where
  pure : ∀ {α : Type} (value : α), related α (pure value) (pure value)
  bind : ∀ {α β : Type} {first : m α} {second : n α} {next : α → m β}
    {other : α → n β}, related α first second →
      (∀ value, related β (next value) (other value)) →
        related β (first >>= next) (second >>= other)

namespace Lockstep

variable {related : (α : Type) → m α → n α → Prop} {visit : τ → m σ}
  {other : τ → n σ}

theorem list {α β : Type} (lockstep : Lockstep related) {items : List α}
    {visit : α → m β} {other : α → n β}
    (each : ∀ item ∈ items, related β (visit item) (other item)) :
    related (List β) (items.mapM' visit) (items.mapM' other) := by
  induction items with
  | nil => exact lockstep.pure []
  | cons item items inductionHypothesis =>
      rw [List.forall_mem_cons] at each
      refine lockstep.bind each.1 fun first => ?_
      refine lockstep.bind (inductionHypothesis each.2) fun rest => ?_
      exact lockstep.pure (first :: rest)

theorem field (lockstep : Lockstep related) {field : Field τ}
    (held : related σ (visit field.type) (other field.type)) :
    related (Field σ) (field.mapM visit) (field.mapM other) :=
  lockstep.bind held fun _ => lockstep.pure _

/-- What relates the components of a kind relates the kind. -/
theorem kind (lockstep : Lockstep related) {kind : Kind τ}
    (each : ∀ component ∈ kind.components,
      related σ (visit component) (other component)) :
    related (Kind σ) (kind.mapM visit) (kind.mapM other) := by
  cases kind with
  | pointer base | array _ base | slice base =>
      exact lockstep.bind (each base List.mem_cons_self) fun _ =>
        lockstep.pure _
  | struct fields =>
      rw [Kind.components, List.forall_mem_map] at each
      have all := lockstep.list fun field member =>
        lockstep.field (each field member)
      exact lockstep.bind all fun _ => lockstep.pure _
  | func params results =>
      rw [Kind.components, List.forall_mem_append] at each
      refine lockstep.bind (lockstep.list each.1) fun _ => ?_
      exact lockstep.bind (lockstep.list each.2) fun _ => lockstep.pure _
  | list types =>
      exact lockstep.bind (lockstep.list each) fun _ => lockstep.pure _
  | bool | string | int | uint | float | untyped | unknown | any | void
  | variadicAny => exact lockstep.pure _

/-- What relates the types of a problem relates the problem. -/
theorem problem (lockstep : Lockstep related) {problem : Problem τ}
    (each : ∀ type ∈ problem.types, related σ (visit type) (other type)) :
    related (Problem σ) (problem.mapM visit) (problem.mapM other) := by
  cases problem with
  | incompatible | mismatchedOperands | operatorOnTypes =>
      rw [Problem.types, List.forall_mem_cons, List.forall_mem_singleton]
        at each
      refine lockstep.bind each.1 fun _ => ?_
      exact lockstep.bind each.2 fun _ => lockstep.pure _
  | overflows | truncated | operatorOnType | notCallable =>
      rw [Problem.types, List.forall_mem_singleton] at each
      exact lockstep.bind each fun _ => lockstep.pure _
  | lengthMismatch | tooManyArguments | tooFewArguments | folding =>
      exact lockstep.pure _

/--
A relation that passes from kinds to their types holds of every type of a family
that is closed under components.
-/
theorem type (lockstep : Lockstep related) (visit : Ty → m σ)
    (other : Ty → n σ) {owns : Ty → Prop}
    (components :
      ∀ type, owns type → ∀ component ∈ type.kind.components,
        owns component)
    (step :
      ∀ type, owns type →
        related (Kind σ) (type.kind.mapM visit) (type.kind.mapM other) →
          related σ (visit type) (other type))
    {type : Ty} (owned : owns type) :
    related σ (visit type) (other type) := by
  induction type using Ty.induction_on_components with
  | step type inductionHypothesis =>
      apply step type owned
      apply lockstep.kind
      intro component member
      exact inductionHypothesis component member
        (components type owned component member)

end Lockstep

end

/-! ## Spelling goes through the components -/

theorem spellings_eq_mapM (shown : Atom → String) (types : List Ty) :
    spellings shown types = types.mapM' (Ty.spelling shown) := by
  induction types with
  | nil => rfl
  | cons type types inductionHypothesis =>
      rw [spellings, inductionHypothesis]
      rfl

theorem fieldSpellings_eq_mapM (shown : Atom → String)
    (fields : List (Field Ty)) :
    fieldSpellings shown fields =
      fields.mapM' (Field.mapM (Ty.spelling shown)) := by
  induction fields with
  | nil => rfl
  | cons field fields inductionHypothesis =>
      cases field
      rw [fieldSpellings, inductionHypothesis]
      rfl

theorem Kind.spellComponents_eq_mapM (shown : Atom → String)
    (kind : Kind Ty) :
    kind.spellComponents shown = kind.mapM (Ty.spelling shown) := by
  cases kind with
  | struct fields =>
      rw [Kind.spellComponents, fieldSpellings_eq_mapM]
      rfl
  | func params results =>
      rw [Kind.spellComponents, spellings_eq_mapM, spellings_eq_mapM]
      rfl
  | list types =>
      rw [Kind.spellComponents, spellings_eq_mapM]
      rfl
  | bool | string | int | uint | float | pointer | array | slice | untyped
  | unknown | any | void | variadicAny => rfl

end TypeRules
