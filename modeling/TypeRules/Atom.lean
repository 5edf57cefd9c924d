import TypeRules.Table

/-!
# Names and the table of their texts

An atom identifies a name: two atoms are the same exactly when they were made
from the same text.  An atom table says which text an atom is to be shown
with.  That is the text it was made from, unless the table was told otherwise.

A hash of 64 bits would do for an atom in practice.  Here an atom is the text
itself, which is to say that no two names are taken to collide.  The theorems
about the checkers that a client can bring about rest on this: two names of one
hash would be one name, shown with the text of whichever came first.
-/

namespace TypeRules

/-- The identity of a name. -/
structure Atom where
  /-- The text the atom was made from. -/
  source : String
  deriving DecidableEq

/-- The texts that atoms are shown with. -/
structure AtomTable where
  /-- The text of each known atom. -/
  texts : Table Atom String

namespace AtomTable

/-- The table that knows no atom. -/
def empty : AtomTable :=
  ⟨.empty⟩

/-- Whether the table knows an atom. -/
def contains (table : AtomTable) (atom : Atom) : Bool :=
  table.texts.contains atom

/-- The text an atom is shown with, if the table knows it. -/
def get? (table : AtomTable) (atom : Atom) : Option String :=
  table.texts.get? atom

/-- Whether an atom is shown with the given text, if the table knows it. -/
def shows? (table : AtomTable) (atom : Atom) (text : String) : Option Bool :=
  (table.get? atom).map (· == text)

/--
Give an atom a text.  The first result is the text this displaces; an atom is
meant to get its text once, so it should be `none`.
-/
def insert (table : AtomTable) (atom : Atom) (text : String) :
    Option String × AtomTable :=
  (table.get? atom, ⟨table.texts.insert atom text⟩)

/--
Give an atom a text unless it has one.  The first result says whether the text
was needed.
-/
def insertIfAbsent (table : AtomTable) (atom : Atom) (text : Unit → String) :
    Bool × AtomTable :=
  if table.contains atom then (false, table)
  else (true, (table.insert atom (text ())).2)

/-- The atom of a text, shown with that text unless it already has one. -/
def intern (table : AtomTable) (text : String) : Atom × AtomTable :=
  (⟨text⟩, (table.insertIfAbsent ⟨text⟩ fun _ => text).2)

/-- Intern each of several texts. -/
def internAll (table : AtomTable) (texts : List String) : AtomTable :=
  texts.foldl (fun known text => (known.intern text).2) table

end AtomTable

end TypeRules
