import TypeRules.Ty.Basic

/-!
# Induction on types

A type holds its components inside lists and fields, so what is to be shown of
a type has to be assumed of the components of its kind.  This is the one
induction principle for types: to show a property of every type it is enough
to show it of a type whose components have it.
-/

namespace TypeRules

/-- A property that passes from components to types holds of every type. -/
theorem Ty.induction_on_components {holds : Ty → Prop}
    (step : ∀ type : Ty,
      (∀ component ∈ type.kind.components, holds component) → holds type)
    (type : Ty) : holds type := by
  refine @Ty.rec holds
    (fun kind => ∀ component ∈ kind.components, holds component)
    (fun fields => ∀ field ∈ fields, holds field.type)
    (fun types => ∀ component ∈ types, holds component)
    (fun field => holds field.type)
    (fun id name kind components => step ⟨id, name, kind⟩ components)
    ?_ ?_ ?_ ?_ ?_ ?_ ?_ ?_ ?_ ?_ ?_ ?_ ?_ ?_ ?_ ?_ ?_ ?_ ?_ ?_
    (fun _ _ held => held) type
  -- The kinds come in the order of their declaration, then lists and fields.
  case refine_6 =>
    intro base held
    exact List.forall_mem_singleton.mpr held
  case refine_7 =>
    intro length element held
    exact List.forall_mem_singleton.mpr held
  case refine_8 =>
    intro element held
    exact List.forall_mem_singleton.mpr held
  case refine_9 =>
    intro fields held
    exact List.forall_mem_map.mpr held
  case refine_10 =>
    intro params results paramsHold resultsHold component member
    rcases List.mem_append.mp member with member | member
    · exact paramsHold component member
    · exact resultsHold component member
  case refine_11 =>
    intro types held
    exact held
  case refine_18 =>
    intro field fields held othersHold
    exact List.forall_mem_cons.mpr ⟨held, othersHold⟩
  case refine_20 =>
    intro component components held othersHold
    exact List.forall_mem_cons.mpr ⟨held, othersHold⟩
  all_goals
    intros
    contradiction

end TypeRules
