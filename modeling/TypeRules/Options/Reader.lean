import TypeRules.Json.Reader
import TypeRules.Options.Basic

/-!
# Reading settings

Settings are written as an object with a member for each option that is set.
A value of `null` leaves its option unset.  Unknown keys and keys that occur
twice are refused, even where the value is `null`.  Instead of an object, an
array may list the values of all options in their order.
-/

namespace TypeRules

/-- The options by themselves, in the order in which an array lists them. -/
inductive OptionKey where
  | unsignedRange
  | addressOfYieldsPointer
  | nilPointer
  | shiftOperandsExempt
  | untypedOperandConversion
  deriving DecidableEq

namespace OptionKey

/-- Every option, in the order in which an array lists them. -/
def all : List OptionKey :=
  [unsignedRange, addressOfYieldsPointer, nilPointer, shiftOperandsExempt,
    untypedOperandConversion]

/-- The key of an option in an object. -/
def text : OptionKey → String
  | unsignedRange => "unsignedRange"
  | addressOfYieldsPointer => "addressOfYieldsPointer"
  | nilPointer => "nilPointer"
  | shiftOperandsExempt => "shiftOperandsExempt"
  | untypedOperandConversion => "untypedOperandConversion"

/-- The option that a key names. -/
def ofText? (text : String) : Option OptionKey :=
  all.find? (·.text == text)

end OptionKey

/-- The range that a word names. -/
def UnsignedRange.ofWord? (word : String) : Option UnsignedRange :=
  if word = "Exact" ∨ word = "exact" then some .exact
  else if word = "Signed" ∨ word = "signed" then some .signed
  else none

/-- A range as a word, or as the only key of an object with no value. -/
def UnsignedRange.ofJson? : Json → Option UnsignedRange
  | .string word => ofWord? word
  | .object [(word, .null)] => ofWord? word
  | _ => none

/-- A truth value. -/
def boolOfJson? : Json → Option Bool
  | .bool value => some value
  | _ => none

/-- The setting of an option by a value other than `null`. -/
def OptionKey.setting? (key : OptionKey) (value : Json) : Option Setting :=
  match key with
  | .unsignedRange => (UnsignedRange.ofJson? value).map .unsignedRange
  | .addressOfYieldsPointer => (boolOfJson? value).map .addressOfYieldsPointer
  | .nilPointer => (boolOfJson? value).map .nilPointer
  | .shiftOperandsExempt => (boolOfJson? value).map .shiftOperandsExempt
  | .untypedOperandConversion =>
      (boolOfJson? value).map .untypedOperandConversion

namespace Settings

/-- Take the value of one option into account. -/
def read? (settings : Settings) (key : OptionKey) : Json → Option Settings
  | .null => some settings
  | value => (key.setting? value).map settings.set

/-- Read members one after another, given the options already met. -/
def readMembers? (settings : Settings) (met : List OptionKey) :
    List (String × Json) → Option Settings
  | [] => some settings
  | (text, value) :: members => do
      let key ← OptionKey.ofText? text
      if met.contains key then none
      else
        let settings ← settings.read? key value
        settings.readMembers? (key :: met) members

/-- The settings that an object with the given members asks for. -/
def ofMembers? (members : List (String × Json)) : Option Settings :=
  unset.readMembers? [] members

/-- The settings that a value asks for. -/
def ofJson? : Json → Option Settings
  | .object members => ofMembers? members
  | .array items =>
      if items.length = OptionKey.all.length then
        ofMembers? ((OptionKey.all.map OptionKey.text).zip items)
      else none
  | _ => none

/-- The settings that a text asks for. -/
def ofText? (text : String) : Option Settings :=
  (Json.read? text).bind ofJson?

end Settings

end TypeRules
