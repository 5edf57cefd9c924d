/-!
# JSON values

The values of the data format in which settings are written.  An object keeps
its members in the order in which they stand, repeated keys included.  Of a
number only its presence matters here, so a number keeps its text.
-/

namespace TypeRules

/-- A JSON value. -/
inductive Json where
  | null
  | bool (value : Bool)
  | number (text : String)
  | string (value : String)
  | array (items : List Json)
  | object (members : List (String × Json))
  deriving Inhabited

end TypeRules
