/-!
# Options of the checker

Five options adjust the rules.  `Settings` holds what was asked for, where each
option may be left unset; `Options` is what the checker works with, where every
option has a value.  An adjustment either replaces a setting or fills it in if
it is unset.  The four options that are on or off are kept as `Flags`, a set of
bits that each of them is put into and read from.
-/

namespace TypeRules

/-- Which constants an unsigned integer type accepts. -/
inductive UnsignedRange where
  /-- Those that the type can represent. -/
  | exact
  /-- Those that the signed type of the same width can represent. -/
  | signed
  deriving DecidableEq

/-- The options, each with a value. -/
structure Options where
  /-- Which constants an unsigned integer type accepts. -/
  unsignedRange : UnsignedRange
  /-- Taking an address yields a pointer; otherwise the type is unknown. -/
  addressOfYieldsPointer : Bool
  /-- A pointer to anything is accepted by every pointer type. -/
  nilPointer : Bool
  /-- The operands of a shift need not be assignable to each other. -/
  shiftOperandsExempt : Bool
  /--
  An untyped left operand takes the type of the right one, and an untyped
  count may be shifted by.
  -/
  untypedOperandConversion : Bool
  deriving DecidableEq

/-- The options as asked for; an option may be left unset. -/
structure Settings where
  /-- The setting of `Options.unsignedRange`. -/
  unsignedRange : Option UnsignedRange
  /-- The setting of `Options.addressOfYieldsPointer`. -/
  addressOfYieldsPointer : Option Bool
  /-- The setting of `Options.nilPointer`. -/
  nilPointer : Option Bool
  /-- The setting of `Options.shiftOperandsExempt`. -/
  shiftOperandsExempt : Option Bool
  /-- The setting of `Options.untypedOperandConversion`. -/
  untypedOperandConversion : Option Bool
  deriving DecidableEq

/-- One option with a value for it. -/
inductive Setting where
  | unsignedRange (value : UnsignedRange)
  | addressOfYieldsPointer (value : Bool)
  | nilPointer (value : Bool)
  | shiftOperandsExempt (value : Bool)
  | untypedOperandConversion (value : Bool)
  deriving DecidableEq

/-- A change to the settings. -/
inductive Adjustment where
  /-- Set an option, whatever it was set to. -/
  | replace (setting : Setting)
  /-- Set an option if it is unset. -/
  | fill (setting : Setting)
  deriving DecidableEq

namespace Settings

/-- Every option unset. -/
def unset : Settings :=
  ⟨none, none, none, none, none⟩

/-- Set an option, whatever it was set to. -/
def set (settings : Settings) : Setting → Settings
  | .unsignedRange value => { settings with unsignedRange := some value }
  | .addressOfYieldsPointer value =>
      { settings with addressOfYieldsPointer := some value }
  | .nilPointer value => { settings with nilPointer := some value }
  | .shiftOperandsExempt value =>
      { settings with shiftOperandsExempt := some value }
  | .untypedOperandConversion value =>
      { settings with untypedOperandConversion := some value }

/-- Whether the option of a setting already has a value. -/
def isSet (settings : Settings) : Setting → Bool
  | .unsignedRange _ => settings.unsignedRange.isSome
  | .addressOfYieldsPointer _ => settings.addressOfYieldsPointer.isSome
  | .nilPointer _ => settings.nilPointer.isSome
  | .shiftOperandsExempt _ => settings.shiftOperandsExempt.isSome
  | .untypedOperandConversion _ => settings.untypedOperandConversion.isSome

/-- Make a change to the settings. -/
def adjust (settings : Settings) : Adjustment → Settings
  | .replace setting => settings.set setting
  | .fill setting =>
      if settings.isSet setting then settings else settings.set setting

/-- The options that settings ask for, with defaults for those left unset. -/
def resolve (settings : Settings) : Options where
  unsignedRange := settings.unsignedRange.getD .exact
  addressOfYieldsPointer := settings.addressOfYieldsPointer.getD true
  nilPointer := settings.nilPointer.getD true
  shiftOperandsExempt := settings.shiftOperandsExempt.getD true
  untypedOperandConversion := settings.untypedOperandConversion.getD false

end Settings

/-- A set of options that are on or off, one bit each. -/
structure Flags where
  /-- The bits of the options in the set. -/
  bits : BitVec 8
  deriving DecidableEq

namespace Flags

/-- No option. -/
def empty : Flags :=
  ⟨0⟩

/-- The bit of `Options.addressOfYieldsPointer`. -/
def addressOfYieldsPointer : Flags :=
  ⟨.twoPow 8 0⟩

/-- The bit of `Options.nilPointer`. -/
def nilPointer : Flags :=
  ⟨.twoPow 8 1⟩

/-- The bit of `Options.shiftOperandsExempt`. -/
def shiftOperandsExempt : Flags :=
  ⟨.twoPow 8 2⟩

/-- The bit of `Options.untypedOperandConversion`. -/
def untypedOperandConversion : Flags :=
  ⟨.twoPow 8 3⟩

/-- Put the options of another set in, or take them out. -/
def set (flags other : Flags) (on : Bool) : Flags :=
  if on then ⟨flags.bits ||| other.bits⟩
  else ⟨flags.bits &&& ~~~other.bits⟩

/-- Whether all options of another set are there. -/
def contains (flags other : Flags) : Bool :=
  flags.bits &&& other.bits == other.bits

end Flags

namespace Options

/-- The options when nothing is asked for. -/
def standard : Options :=
  Settings.unset.resolve

/-- The set of the options that are on. -/
def flagSet (options : Options) : Flags :=
  Flags.empty
    |>.set .addressOfYieldsPointer options.addressOfYieldsPointer
    |>.set .nilPointer options.nilPointer
    |>.set .shiftOperandsExempt options.shiftOperandsExempt
    |>.set .untypedOperandConversion options.untypedOperandConversion

/-- The bits of the options that are on, read as a number. -/
def flags (options : Options) : Nat :=
  options.flagSet.bits.toNat

end Options

end TypeRules
