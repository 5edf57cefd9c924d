import TypeRules.Json.Basic

/-!
# Tokens of JSON

A text is divided into brackets, separators and scalar values.  White space
between tokens is a space, a tab, a line feed or a carriage return.  A string
holds no bare control character, and its escapes have to denote characters:
the two halves of a surrogate pair only stand together.
-/

namespace TypeRules.Json

/-- A token of a JSON text. -/
inductive Token where
  | beginObject
  | endObject
  | beginArray
  | endArray
  | colon
  | comma
  /-- A value that is no array and no object. -/
  | scalar (value : Json)

/-- Whether a character may stand between tokens. -/
def isBlank (char : Char) : Bool :=
  char == ' ' || char == '\t' || char == '\n' || char == '\r'

/-- The token that a single character makes up. -/
def punctuation? (char : Char) : Option Token :=
  if char = '\x7b' then some .beginObject
  else if char = '\x7d' then some .endObject
  else if char = '[' then some .beginArray
  else if char = ']' then some .endArray
  else if char = ':' then some .colon
  else if char = ',' then some .comma
  else none

/-- The character that a one-letter escape denotes. -/
def escaped? (char : Char) : Option Char :=
  if char = '"' ∨ char = '\\' ∨ char = '/' then some char
  else if char = 'b' then some '\x08'
  else if char = 'f' then some '\x0c'
  else if char = 'n' then some '\n'
  else if char = 'r' then some '\r'
  else if char = 't' then some '\t'
  else none

/-- The value of a hexadecimal digit. -/
def hexValue? (char : Char) : Option Nat :=
  if char.isDigit then some (char.toNat - '0'.toNat)
  else if 'a' ≤ char ∧ char ≤ 'f' then some (char.toNat - 'a'.toNat + 10)
  else if 'A' ≤ char ∧ char ≤ 'F' then some (char.toNat - 'A'.toNat + 10)
  else none

/-- The code unit that four hexadecimal digits spell. -/
def codeUnit? (first second third fourth : Char) : Option Nat := do
  let digits ← [first, second, third, fourth].mapM hexValue?
  return digits.foldl (fun value digit => 16 * value + digit) 0

/-- Whether a code unit is the first half of a surrogate pair. -/
def isHighSurrogate (unit : Nat) : Bool :=
  0xd800 ≤ unit && unit < 0xdc00

/-- Whether a code unit is the second half of a surrogate pair. -/
def isLowSurrogate (unit : Nat) : Bool :=
  0xdc00 ≤ unit && unit < 0xe000

/-- The character of a surrogate pair. -/
def pairedChar (high low : Nat) : Char :=
  Char.ofNat (0x10000 + (high - 0xd800) * 0x400 + (low - 0xdc00))

/-- Drop digits off the front, of which there has to be at least one. -/
def dropDigits? : List Char → Option (List Char)
  | [] => none
  | char :: rest =>
      if char.isDigit then some (rest.dropWhile Char.isDigit) else none

/-- Drop the integer part of a number: zero, or digits not starting with it. -/
def dropInteger? : List Char → Option (List Char)
  | '0' :: rest => some rest
  | text => dropDigits? text

/-- Drop the places behind the point of a number, if there is a point. -/
def dropPlaces? : List Char → Option (List Char)
  | '.' :: rest => dropDigits? rest
  | text => some text

/-- Drop the sign of an exponent, if there is one. -/
def dropExponentSign : List Char → List Char
  | '+' :: rest => rest
  | '-' :: rest => rest
  | text => text

/-- Drop the exponent of a number, if there is one. -/
def dropExponent? : List Char → Option (List Char)
  | 'e' :: rest => dropDigits? (dropExponentSign rest)
  | 'E' :: rest => dropDigits? (dropExponentSign rest)
  | text => some text

/-- Drop the minus sign of a number, if there is one. -/
def dropMinus : List Char → List Char
  | '-' :: rest => rest
  | text => text

/-- Whether a word is a number. -/
def isNumber (word : List Char) : Bool :=
  match (dropInteger? (dropMinus word)).bind fun rest =>
      (dropPlaces? rest).bind dropExponent? with
  | some [] => true
  | _ => false

/-- The scalar that a word denotes: one of three names, or a number. -/
def wordValue? (word : List Char) : Option Json :=
  if word = ['n', 'u', 'l', 'l'] then some .null
  else if word = ['t', 'r', 'u', 'e'] then some (.bool true)
  else if word = ['f', 'a', 'l', 's', 'e'] then some (.bool false)
  else if isNumber word then some (.number (String.ofList word))
  else none

/-- The token of a word whose characters were collected in reverse. -/
def wordToken? (reversed : List Char) : Option Token :=
  (wordValue? reversed.reverse).map .scalar

/-- The token of a string whose characters were collected in reverse. -/
def stringToken (reversed : List Char) : Token :=
  .scalar (.string (String.ofList reversed.reverse))

mutual

/-- Divide a text into tokens. -/
def tokens? (text : List Char) : Option (List Token) :=
  match text with
  | [] => some []
  | char :: rest =>
      if isBlank char then tokens? rest
      else if char = '"' then tokensInString? [] rest
      else
        match punctuation? char with
        | some token => (tokens? rest).map (token :: ·)
        | none => tokensInWord? [char] rest
termination_by structural text

/-- Divide a text that goes on with the rest of a word. -/
def tokensInWord? (reversed : List Char) (text : List Char) :
    Option (List Token) :=
  match text with
  | [] => (wordToken? reversed).map ([·])
  | char :: rest =>
      if isBlank char then
        (wordToken? reversed).bind fun word =>
          (tokens? rest).map (word :: ·)
      else if char = '"' then none
      else
        match punctuation? char with
        | some token =>
            (wordToken? reversed).bind fun word =>
              (tokens? rest).map (word :: token :: ·)
        | none => tokensInWord? (char :: reversed) rest
termination_by structural text

/-- Divide a text that goes on with the rest of a string. -/
def tokensInString? (reversed : List Char) (text : List Char) :
    Option (List Token) :=
  match text with
  | [] => none
  | '"' :: rest => (tokens? rest).map (stringToken reversed :: ·)
  | '\\' :: 'u' :: first :: second :: third :: fourth :: rest =>
      (codeUnit? first second third fourth).bind fun unit =>
        if isHighSurrogate unit then
          tokensInPair? reversed unit rest
        else if isLowSurrogate unit then none
        else tokensInString? (Char.ofNat unit :: reversed) rest
  | '\\' :: char :: rest =>
      (escaped? char).bind fun char =>
        tokensInString? (char :: reversed) rest
  | char :: rest =>
      if char = '\\' ∨ char < ' ' then none
      else tokensInString? (char :: reversed) rest
termination_by structural text

/-- Divide a text that goes on with the second half of a surrogate pair. -/
def tokensInPair? (reversed : List Char) (high : Nat) (text : List Char) :
    Option (List Token) :=
  match text with
  | '\\' :: 'u' :: first :: second :: third :: fourth :: rest =>
      (codeUnit? first second third fourth).bind fun low =>
        if isLowSurrogate low then
          tokensInString? (pairedChar high low :: reversed) rest
        else none
  | _ => none
termination_by structural text

end

end TypeRules.Json
