/-!
# Finite tables

A table keeps the entries written to it, newest first.  Looking up a key
finds the newest entry for that key, so writing a key again hides what was
stored under it before.  The lemmas below say what each operation does to
`get?`, and nothing else about a table is used elsewhere.
-/

namespace TypeRules

/-- A finite map from keys to values. -/
structure Table (κ α : Type) where
  /-- The entries written so far, newest first. -/
  entries : List (κ × α)

namespace Table

variable {κ α : Type}

/-- The table without entries. -/
def empty : Table κ α :=
  ⟨[]⟩

/-- Write `value` under `key`. -/
def insert (table : Table κ α) (key : κ) (value : α) : Table κ α :=
  ⟨(key, value) :: table.entries⟩

variable [DecidableEq κ]

/-- The newest value written under `key`. -/
def get? (table : Table κ α) (key : κ) : Option α :=
  table.entries.lookup key

/-- Whether some value was written under `key`. -/
def contains (table : Table κ α) (key : κ) : Bool :=
  (table.get? key).isSome

@[simp]
theorem get?_empty (key : κ) :
    (empty : Table κ α).get? key = none :=
  rfl

@[simp]
theorem get?_insert_self (table : Table κ α) (key : κ) (value : α) :
    (table.insert key value).get? key = some value := by
  simp [get?, insert]

theorem get?_insert_of_ne (table : Table κ α) (value : α)
    {key other : κ} (distinct : other ≠ key) :
    (table.insert key value).get? other = table.get? other := by
  have differs : (other == key) = false := beq_false_of_ne distinct
  simp [get?, insert, List.lookup_cons, differs]

theorem get?_insert (table : Table κ α) (key other : κ) (value : α) :
    (table.insert key value).get? other =
      if other = key then some value else table.get? other := by
  by_cases same : other = key
  · subst same
    simp
  · simp [same, get?_insert_of_ne table value same]

end Table

end TypeRules
