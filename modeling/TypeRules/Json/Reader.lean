import TypeRules.Json.Token

/-!
# Reading JSON

The tokens of a text are taken one at a time by a machine that keeps the
arrays and objects still open.  Each token is either what the machine waits for
or an error, so a text is read by one fold over its tokens.  Nothing may follow
the value, and no separator may stand before a closing bracket.
-/

namespace TypeRules.Json

/-- An array or object still open, what it holds so far in reverse. -/
inductive Frame where
  | array (items : List Json)
  /-- An object that waits for the value of `key`. -/
  | object (members : List (String × Json)) (key : String)

/-- What may come next. -/
inductive Reading where
  /-- A value. -/
  | value (frames : List Frame)
  /-- The first item of the innermost array, or its end. -/
  | firstItem (frames : List Frame)
  /-- The first key of an object, or its end. -/
  | firstKey (frames : List Frame)
  /-- A key of an object that holds `members` already. -/
  | key (frames : List Frame) (members : List (String × Json))
  /-- The colon behind a key. -/
  | colon (frames : List Frame) (members : List (String × Json))
      (key : String)
  /-- A comma or the end of the array that holds `items`. -/
  | afterItem (frames : List Frame) (items : List Json)
  /-- A comma or the end of the object that holds `members`. -/
  | afterMember (frames : List Frame) (members : List (String × Json))
  /-- Nothing: the value is complete. -/
  | done (value : Json)

/-- A value is complete: it goes into the innermost open array or object. -/
def complete (value : Json) : List Frame → Reading
  | [] => .done value
  | .array items :: frames => .afterItem frames (value :: items)
  | .object members key :: frames =>
      .afterMember frames ((key, value) :: members)

/-- A value starts with the given token. -/
def beginValue? (frames : List Frame) : Token → Option Reading
  | .scalar value => some (complete value frames)
  | .beginArray => some (.firstItem frames)
  | .beginObject => some (.firstKey frames)
  | _ => none

/-- Take one token. -/
def Reading.take? : Reading → Token → Option Reading
  | .value frames, token => beginValue? frames token
  | .firstItem frames, .endArray => some (complete (.array []) frames)
  | .firstItem frames, token => beginValue? (.array [] :: frames) token
  | .firstKey frames, .endObject => some (complete (.object []) frames)
  | .firstKey frames, .scalar (.string name) => some (.colon frames [] name)
  | .key frames members, .scalar (.string name) =>
      some (.colon frames members name)
  | .colon frames members name, .colon =>
      some (.value (.object members name :: frames))
  | .afterItem frames items, .comma => some (.value (.array items :: frames))
  | .afterItem frames items, .endArray =>
      some (complete (.array items.reverse) frames)
  | .afterMember frames members, .comma => some (.key frames members)
  | .afterMember frames members, .endObject =>
      some (complete (.object members.reverse) frames)
  | _, _ => none

/-- The value that tokens spell. -/
def ofTokens? (tokens : List Token) : Option Json :=
  match tokens.foldlM Reading.take? (.value []) with
  | some (.done value) => some value
  | _ => none

/-- The value that a text spells. -/
def read? (text : String) : Option Json :=
  (tokens? text.toList).bind ofTokens?

end TypeRules.Json
