import TypeRules.Proofs.Identity

/-!
# Making structures

A structure is made from names and types in the order in which they are given.
It is refused if a name repeats, and the refusal names the first repetition.

How far the walk over the names gets is said by `Arena.struct_cases`.  What is
left is what the fields of the structure answer when they are asked by name.
-/

namespace TypeRules

/-! ## Fields by their names -/

namespace Construction

variable {fields : List (String × Ty)} {name : String}

theorem fieldsOf_pairs (fields : List (String × Ty)) :
    (fieldsOf fields).map (fun field => (field.name.source, field.type)) =
      fields := by
  simp [fieldsOf, Function.comp_def]

theorem lookup?_fieldsOf_iff (distinct : (fields.map Prod.fst).Nodup)
    {held : Ty} :
    Field.lookup? (fieldsOf fields) ⟨name⟩ = some held ↔
      (name, held) ∈ fields := by
  induction fields with
  | nil => simp [fieldsOf, Field.lookup?]
  | cons field fields inductionHypothesis =>
      rcases field with ⟨first, type⟩
      rw [List.map_cons, List.nodup_cons] at distinct
      by_cases same : first = name
      · subst same
        have elsewhere : (first, held) ∉ fields := by
          intro member
          exact distinct.1 (List.mem_map.mpr ⟨_, member, rfl⟩)
        simp [fieldsOf, Field.lookup?, elsewhere, eq_comm]
      · have skipped :
            Field.lookup? (fieldsOf ((first, type) :: fields)) ⟨name⟩ =
              Field.lookup? (fieldsOf fields) ⟨name⟩ := by
          simp [fieldsOf, Field.lookup?, same]
        rw [skipped, inductionHypothesis distinct.2, List.mem_cons]
        simp [Ne.symm same]

theorem lookup?_fieldsOf_eq_none (distinct : (fields.map Prod.fst).Nodup)
    (absent : name ∉ fields.map Prod.fst) :
    Field.lookup? (fieldsOf fields) ⟨name⟩ = none := by
  rw [Option.eq_none_iff_forall_ne_some]
  intro held found
  exact absent
    (List.mem_map_of_mem ((lookup?_fieldsOf_iff distinct).mp found))

end Construction

/-! ## Structures -/

namespace Arena

variable {fields : List (String × Ty)} {arena : Arena}

theorem struct_ok_iff {type : Ty} :
    (arena.struct fields).1 = .ok type ↔
      (fields.map Prod.fst).Nodup ∧
        type =
          ⟨arena.nextId, none, .struct (Construction.fieldsOf fields)⟩ := by
  rcases arena.struct_cases fields with
    ⟨distinct, made⟩ | ⟨before, name, after, split, -, again, refused⟩
  · rw [made]
    simp [Arena.made, unnamed, Kind.internKey?, fresh, nextId, distinct,
      eq_comm]
  · have repeated : ¬ (fields.map Prod.fst).Nodup := by
      rw [split, List.nodup_append]
      rintro ⟨-, -, apart⟩
      exact apart name again name List.mem_cons_self rfl
    simp [refused, repeated]

theorem struct_error_iff {error : ConstructionError} :
    (arena.struct fields).1 = .error error ↔
      ∃ before name after, fields.map Prod.fst = before ++ name :: after ∧
        before.Nodup ∧ name ∈ before ∧ error = .duplicateField name := by
  constructor
  · intro failed
    rcases arena.struct_cases fields with
      ⟨-, made⟩ | ⟨before, name, after, split, distinct, again, refused⟩
    · rw [made] at failed
      cases failed
    · rw [refused] at failed
      cases failed
      exact ⟨before, name, after, split, distinct, again, rfl⟩
  · rintro ⟨before, name, after, split, distinct, again, rfl⟩
    rw [struct_of_repeated split distinct again]

/-- A structure that is made is the last type, and else no type is added. -/
theorem struct_types :
    (arena.struct fields).2.types =
      match (arena.struct fields).1 with
      | .ok type => arena.types.push type
      | .error _ => arena.types := by
  rcases arena.struct_cases fields with
    ⟨-, made⟩ | ⟨_, _, _, -, -, -, refused⟩
  · rw [made]
    rfl
  · rw [refused]

/--
A structure is made just when the names differ.  Its fields are then the given
ones in the given order, a given name finds the type given with it, and no other
name finds anything.  Otherwise the error gives the first name that occurred
before, and no type is added.
-/
theorem struct_refuses_first_repeated (arena : Arena)
    (fields : List (String × Ty)) :
    ((∃ type, (arena.struct fields).1 = .ok type) ↔
        (fields.map Prod.fst).Nodup) ∧
      (∀ type, (arena.struct fields).1 = .ok type →
        (arena.struct fields).2.types = arena.types.push type ∧
          ∃ made, type.kind = .struct made ∧
            made.map (fun field => (field.name.source, field.type)) =
              fields ∧
            (∀ name held, Field.lookup? made ⟨name⟩ = some held ↔
              (name, held) ∈ fields) ∧
            ∀ name ∉ fields.map Prod.fst,
              Field.lookup? made ⟨name⟩ = none) ∧
      (∀ error, (arena.struct fields).1 = .error error ↔
        ∃ before name after, fields.map Prod.fst = before ++ name :: after ∧
          before.Nodup ∧ name ∈ before ∧ error = .duplicateField name) ∧
      ∀ error, (arena.struct fields).1 = .error error →
        (arena.struct fields).2.types = arena.types := by
  refine ⟨?_, ?_, fun _ => struct_error_iff, ?_⟩
  · simp [struct_ok_iff]
  · intro type accepted
    rcases struct_ok_iff.mp accepted with ⟨distinct, rfl⟩
    constructor
    · rw [struct_types, accepted]
    · refine ⟨_, rfl, Construction.fieldsOf_pairs fields, ?_, ?_⟩
      · intro name held
        exact Construction.lookup?_fieldsOf_iff distinct
      · intro name absent
        exact Construction.lookup?_fieldsOf_eq_none distinct absent
  · intro error refused
    rw [struct_types, refused]

/-- Names of which the second and the first repeat, in that order. -/
def crossedFields : List (String × Ty) :=
  [("x", .bool), ("y", .string), ("z", .any), ("y", .bool), ("x", .void)]

theorem struct_refuses_first_repeated_crossed :
    (∃ type made, (initial.struct (crossedFields.take 3)).1 = .ok type ∧
        type.kind = .struct made ∧
        Field.lookup? made ⟨"y"⟩ = some .string ∧
        Field.lookup? made ⟨"w"⟩ = none) ∧
      (initial.struct crossedFields).1 = .error (.duplicateField "y") ∧
      (initial.struct crossedFields).2.types = initial.types := by
  constructor
  · rcases struct_refuses_first_repeated initial (crossedFields.take 3) with
      ⟨accepts, fields, -, -⟩
    rcases accepts.mpr (by decide) with ⟨type, accepted⟩
    rcases fields type accepted with ⟨-, made, kind, -, found, absent⟩
    refine ⟨type, made, accepted, kind, (found "y" .string).mpr ?_,
      absent "w" (by decide)⟩
    exact List.mem_cons_of_mem _ List.mem_cons_self
  · rcases struct_refuses_first_repeated initial crossedFields with
      ⟨-, -, refuses, unchanged⟩
    have refused :=
      (refuses (.duplicateField "y")).mpr
        ⟨["x", "y", "z"], "y", ["x"], rfl, by decide, by decide, rfl⟩
    exact ⟨refused, unchanged _ refused⟩

end Arena

end TypeRules
