import TypeRules.Ty.Basic

/-!
# The spelling of a kind

`Kind.spell` writes a kind whose components are already spelled.  It decides
every space and bracket of the notation, and leaves to its callers how the
components came to be spelled and under which text a field name is shown.
-/

namespace TypeRules

/-- Spellings in a row, divided by commas. -/
def commaSeparated (spellings : List String) : String :=
  ", ".intercalate spellings

/-- The results of a function; a single one needs no brackets. -/
def spellResults : List String → String
  | [] => ""
  | [result] => " " ++ result
  | results => " (" ++ commaSeparated results ++ ")"

/-- A field with its name before its type. -/
def Field.spell (shown : Atom → String) (field : Field String) : String :=
  shown field.name ++ " " ++ field.type

/-- The fields of a structure between braces. -/
def spellFields (shown : Atom → String) : List (Field String) → String
  | [] => "struct \x7b\x7d"
  | fields =>
      "struct \x7b " ++ "; ".intercalate (fields.map (Field.spell shown)) ++
        " \x7d"

/-- The spelling of a kind from the spellings of its components. -/
def Kind.spell (shown : Atom → String) : Kind String → String
  | .bool => "bool"
  | .string => "string"
  | .int width => "int" ++ toString width
  | .uint width => "uint" ++ toString width
  | .float width => "float" ++ toString width
  | .pointer base => "*" ++ base
  | .array length element => "[" ++ toString length ++ "]" ++ element
  | .slice element => "[]" ++ element
  | .struct fields => spellFields shown fields
  | .func params results =>
      "func(" ++ commaSeparated params ++ ")" ++ spellResults results
  | .list types => "(" ++ commaSeparated types ++ ")"
  | .untyped constant => "untyped number " ++ constant.text
  | .unknown => "unknown"
  | .any => "any"
  | .void => "void"
  | .variadicAny => "...any"

end TypeRules
