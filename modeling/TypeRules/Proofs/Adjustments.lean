import Mathlib.Data.Nat.Bitwise
import TypeRules.Options.Reader

/-!
# What adjustments come to

Settings are adjusted step by step: a step replaces the setting of one option, or
fills it in if it is unset.  Looked at option by option, a sequence of steps
comes down to two values, that of the last replacement and that of the first
step that fills in.  The former goes before what was asked for in the first
place, and the latter comes after it.

`OptionKey.Value` is the type of the values of an option, so that settings,
options and defaults are read by the same keys.  The last section is about the
four options that are on or off: their bits in the flags tell them apart.
-/

namespace TypeRules

/-! ## Options by their keys -/

/-- What an option can be set to. -/
def OptionKey.Value : OptionKey → Type
  | .unsignedRange => UnsignedRange
  | .addressOfYieldsPointer | .nilPointer | .shiftOperandsExempt
  | .untypedOperandConversion => Bool

/-- The value of an option for which nothing is asked. -/
def OptionKey.standard : (key : OptionKey) → key.Value
  | .unsignedRange => UnsignedRange.exact
  | .addressOfYieldsPointer => true
  | .nilPointer => true
  | .shiftOperandsExempt => true
  | .untypedOperandConversion => false

/-- The option that a setting is about. -/
def Setting.key : Setting → OptionKey
  | .unsignedRange _ => .unsignedRange
  | .addressOfYieldsPointer _ => .addressOfYieldsPointer
  | .nilPointer _ => .nilPointer
  | .shiftOperandsExempt _ => .shiftOperandsExempt
  | .untypedOperandConversion _ => .untypedOperandConversion

/-- The value that a setting gives to an option, if it is about that one. -/
def Setting.value? (setting : Setting) (key : OptionKey) : Option key.Value :=
  match setting, key with
  | .unsignedRange value, .unsignedRange => some value
  | .addressOfYieldsPointer value, .addressOfYieldsPointer => some value
  | .nilPointer value, .nilPointer => some value
  | .shiftOperandsExempt value, .shiftOperandsExempt => some value
  | .untypedOperandConversion value, .untypedOperandConversion => some value
  | _, _ => none

theorem Setting.value?_of_ne {setting : Setting} {key : OptionKey}
    (differ : setting.key ≠ key) : setting.value? key = none := by
  cases setting <;> cases key <;> simp [Setting.key] at differ <;> rfl

/-- The setting of an option, if it is set. -/
def Settings.get? (settings : Settings) :
    (key : OptionKey) → Option key.Value
  | .unsignedRange => settings.unsignedRange
  | .addressOfYieldsPointer => settings.addressOfYieldsPointer
  | .nilPointer => settings.nilPointer
  | .shiftOperandsExempt => settings.shiftOperandsExempt
  | .untypedOperandConversion => settings.untypedOperandConversion

/-- The value of an option. -/
def Options.get (options : Options) : (key : OptionKey) → key.Value
  | .unsignedRange => options.unsignedRange
  | .addressOfYieldsPointer => options.addressOfYieldsPointer
  | .nilPointer => options.nilPointer
  | .shiftOperandsExempt => options.shiftOperandsExempt
  | .untypedOperandConversion => options.untypedOperandConversion

namespace Settings

theorem get_resolve (settings : Settings) (key : OptionKey) :
    settings.resolve.get key = (settings.get? key).getD key.standard := by
  cases key <;> rfl

theorem get?_set (settings : Settings) (setting : Setting)
    (key : OptionKey) :
    (settings.set setting).get? key =
      (setting.value? key).or (settings.get? key) := by
  cases setting <;> cases key <;> rfl

theorem isSet_eq (settings : Settings) (setting : Setting) :
    settings.isSet setting = (settings.get? setting.key).isSome := by
  cases setting <;> rfl

end Settings

/-! ## Steps -/

/-- The option that a step is about. -/
def Adjustment.key : Adjustment → OptionKey
  | .replace setting => setting.key
  | .fill setting => setting.key

/-- The value by which a step replaces the setting of an option. -/
def Adjustment.replaced? (key : OptionKey) : Adjustment → Option key.Value
  | .replace setting => setting.value? key
  | .fill _ => none

/-- The value that a step fills in for an option. -/
def Adjustment.filled? (key : OptionKey) : Adjustment → Option key.Value
  | .replace _ => none
  | .fill setting => setting.value? key

theorem Settings.get?_adjust (settings : Settings) (adjustment : Adjustment)
    (key : OptionKey) :
    (settings.adjust adjustment).get? key =
      ((adjustment.replaced? key).or (settings.get? key)).or
        (adjustment.filled? key) := by
  cases adjustment with
  | replace setting =>
      rw [Settings.adjust, Settings.get?_set]
      exact (Option.or_none).symm
  | fill setting =>
      rw [Settings.adjust, Settings.isSet_eq]
      by_cases own : setting.key = key
      · subst own
        cases found : settings.get? setting.key with
        | none =>
            simp [Adjustment.replaced?, Adjustment.filled?, found,
              Settings.get?_set]
        | some value => simp [Adjustment.replaced?, Adjustment.filled?, found]
      · have other := Setting.value?_of_ne own
        split
        · simp [Adjustment.replaced?, Adjustment.filled?, other]
        · simp [Adjustment.replaced?, Adjustment.filled?, other,
            Settings.get?_set]

/-- The value of the last step that replaces the setting of an option. -/
def lastReplaced? (key : OptionKey) (adjustments : List Adjustment) :
    Option key.Value :=
  (adjustments.filterMap (Adjustment.replaced? key)).getLast?

/-- The value of the first step that fills in the setting of an option. -/
def firstFilled? (key : OptionKey) (adjustments : List Adjustment) :
    Option key.Value :=
  (adjustments.filterMap (Adjustment.filled? key)).head?

theorem lastReplaced?_cons (key : OptionKey) (adjustment : Adjustment)
    (adjustments : List Adjustment) :
    lastReplaced? key (adjustment :: adjustments) =
      (lastReplaced? key adjustments).or (adjustment.replaced? key) := by
  rw [lastReplaced?, lastReplaced?, List.filterMap_cons]
  cases adjustment.replaced? key with
  | none => exact Option.or_none.symm
  | some value => rw [List.getLast?_cons, Option.or_some]

theorem firstFilled?_cons (key : OptionKey) (adjustment : Adjustment)
    (adjustments : List Adjustment) :
    firstFilled? key (adjustment :: adjustments) =
      (adjustment.filled? key).or (firstFilled? key adjustments) := by
  rw [firstFilled?, firstFilled?, List.filterMap_cons]
  cases adjustment.filled? key <;> rfl

/-- Make changes to the settings one after another. -/
def Settings.adjustAll (settings : Settings)
    (adjustments : List Adjustment) : Settings :=
  adjustments.foldl Settings.adjust settings

/-- Steps come down to the last that replaces and the first that fills in. -/
theorem Settings.get?_adjustAll (settings : Settings)
    (adjustments : List Adjustment) (key : OptionKey) :
    (settings.adjustAll adjustments).get? key =
      ((lastReplaced? key adjustments).or (settings.get? key)).or
        (firstFilled? key adjustments) := by
  induction adjustments generalizing settings with
  | nil => exact Option.or_none.symm
  | cons adjustment adjustments inductionHypothesis =>
      have later := inductionHypothesis (settings.adjust adjustment)
      rw [Settings.get?_adjust] at later
      rw [lastReplaced?_cons, firstFilled?_cons]
      simp only [Option.or_assoc] at later ⊢
      exact later

theorem Adjustment.values_of_ne {adjustment : Adjustment} {key : OptionKey}
    (differ : adjustment.key ≠ key) :
    adjustment.replaced? key = none ∧ adjustment.filled? key = none := by
  cases adjustment with
  | replace setting => exact ⟨Setting.value?_of_ne differ, rfl⟩
  | fill setting => exact ⟨rfl, Setting.value?_of_ne differ⟩

/-- Steps about other options have no part in what becomes of an option. -/
theorem Settings.get?_adjustAll_filter (settings : Settings)
    (adjustments : List Adjustment) (key : OptionKey) :
    (settings.adjustAll (adjustments.filter (·.key = key))).get? key =
      (settings.adjustAll adjustments).get? key := by
  induction adjustments generalizing settings with
  | nil => rfl
  | cons adjustment adjustments inductionHypothesis =>
      by_cases own : adjustment.key = key
      · rw [List.filter_cons_of_pos (by simpa using own)]
        exact inductionHypothesis (settings.adjust adjustment)
      · rw [List.filter_cons_of_neg (by simpa using own),
          inductionHypothesis, get?_adjustAll, get?_adjustAll,
          lastReplaced?_cons, firstFilled?_cons,
          (Adjustment.values_of_ne own).1, (Adjustment.values_of_ne own).2,
          Option.or_none, Option.none_or]

/-! ## Flags -/

/-- The flag of an option that is on or off. -/
def OptionKey.flag : OptionKey → Nat
  | .unsignedRange => 0
  | .addressOfYieldsPointer => 1
  | .nilPointer => 2
  | .shiftOperandsExempt => 4
  | .untypedOperandConversion => 8

/-- Whether an option is on; a range is not. -/
def Options.isOn (options : Options) : OptionKey → Bool
  | .unsignedRange => false
  | .addressOfYieldsPointer => options.addressOfYieldsPointer
  | .nilPointer => options.nilPointer
  | .shiftOperandsExempt => options.shiftOperandsExempt
  | .untypedOperandConversion => options.untypedOperandConversion

/-- Whether an option is on by the bits of a set; a range has no bit. -/
def Flags.isOn (flags : Flags) : OptionKey → Bool
  | .unsignedRange => false
  | .addressOfYieldsPointer => flags.contains .addressOfYieldsPointer
  | .nilPointer => flags.contains .nilPointer
  | .shiftOperandsExempt => flags.contains .shiftOperandsExempt
  | .untypedOperandConversion => flags.contains .untypedOperandConversion

namespace Flags

variable {other : Flags}

theorem contains_set_self (proper : other.bits ≠ 0) (flags : Flags)
    (on : Bool) : (flags.set other on).contains other = on := by
  rw [set, contains]
  cases on with
  | true =>
      have inside :
          (flags.bits ||| other.bits) &&& other.bits = other.bits := by
        ext index bound
        simp only [BitVec.getElem_and, BitVec.getElem_or]
        cases other.bits[index] <;> simp
      simp [inside]
  | false =>
      have outside : flags.bits &&& ~~~other.bits &&& other.bits = 0 := by
        ext index bound
        simp
      simpa [outside] using proper.symm

/-- Setting an option leaves the others as they were. -/
theorem contains_set_of_disjoint {third : Flags}
    (disjoint : third.bits &&& other.bits = 0) (flags : Flags) (on : Bool) :
    (flags.set other on).contains third = flags.contains third := by
  have kept :
      (flags.set other on).bits &&& third.bits =
        flags.bits &&& third.bits := by
    ext index bound
    have apart : (third.bits &&& other.bits)[index] = false := by
      simp [disjoint]
    rw [BitVec.getElem_and] at apart
    rw [BitVec.getElem_and, BitVec.getElem_and]
    cases inside : third.bits[index] with
    | false => rw [Bool.and_false, Bool.and_false]
    | true =>
        have outside : other.bits[index] = false := by
          simpa [inside] using apart
        cases on <;> simp [set, outside]
  rw [contains, contains, kept]

theorem contains_twoPow {index : Nat} (bound : index < 8) (flags : Flags) :
    flags.contains ⟨.twoPow 8 index⟩ =
      (flags.bits.toNat &&& 2 ^ index != 0) := by
  have read : flags.bits.toNat.testBit index = flags.bits.getLsbD index :=
    rfl
  rw [contains, Nat.and_two_pow, read]
  simp only [BitVec.and_twoPow]
  cases flags.bits.getLsbD index with
  | true => simp
  | false =>
      have proper : BitVec.twoPow 8 index ≠ 0 := by
        intro zero
        have bit := congrArg (BitVec.getLsbD · index) zero
        simp [bound] at bit
      simpa using proper.symm

end Flags

namespace Options

/-- What is read from the bits is what was put into them. -/
theorem isOn_flagSet (options : Options) (key : OptionKey) :
    options.flagSet.isOn key = options.isOn key := by
  cases key with
  | unsignedRange => rfl
  | addressOfYieldsPointer =>
      simp only [flagSet, Flags.isOn, isOn]
      rw [Flags.contains_set_of_disjoint (by decide),
        Flags.contains_set_of_disjoint (by decide),
        Flags.contains_set_of_disjoint (by decide),
        Flags.contains_set_self (by decide)]
  | nilPointer =>
      simp only [flagSet, Flags.isOn, isOn]
      rw [Flags.contains_set_of_disjoint (by decide),
        Flags.contains_set_of_disjoint (by decide),
        Flags.contains_set_self (by decide)]
  | shiftOperandsExempt =>
      simp only [flagSet, Flags.isOn, isOn]
      rw [Flags.contains_set_of_disjoint (by decide),
        Flags.contains_set_self (by decide)]
  | untypedOperandConversion =>
      simp only [flagSet, Flags.isOn, isOn]
      rw [Flags.contains_set_self (by decide)]

theorem flags_eq_sum (options : Options) :
    options.flags =
      ((OptionKey.all.filter options.isOn).map OptionKey.flag).sum := by
  rcases options with ⟨range, address, nil, exempt, converts⟩
  cases range <;> cases address <;> cases nil <;> cases exempt <;>
    cases converts <;> decide

theorem isOn_eq_flag (options : Options) (key : OptionKey) :
    options.isOn key = (options.flags &&& key.flag != 0) := by
  rw [← isOn_flagSet]
  cases key with
  | unsignedRange => simp [Flags.isOn, OptionKey.flag]
  | addressOfYieldsPointer => exact Flags.contains_twoPow (by decide) _
  | nilPointer => exact Flags.contains_twoPow (by decide) _
  | shiftOperandsExempt => exact Flags.contains_twoPow (by decide) _
  | untypedOperandConversion => exact Flags.contains_twoPow (by decide) _

end Options

/--
Settings are adjusted by any sequence of steps and then resolved.  Each option
then has the value of the last step that replaces its setting, if there is one;
else what it was set to before; else the value of the first step that fills it
in; and else its standard value.  Steps about other options have no part in it.
What is put into the bits one option after another is read from them again.
The flags are the sum of those of the options that are on, and an option is on
exactly if its flag is among them.
-/
theorem Settings.adjustments_resolve (settings : Settings)
    (adjustments : List Adjustment) :
    let options := (settings.adjustAll adjustments).resolve
    (∀ key : OptionKey,
        options.get key =
            (((lastReplaced? key adjustments).or (settings.get? key)).or
              (firstFilled? key adjustments)).getD key.standard ∧
          options.get key =
            (settings.adjustAll
              (adjustments.filter (·.key = key))).resolve.get key ∧
          options.flagSet.isOn key = options.isOn key ∧
          options.isOn key = (options.flags &&& key.flag != 0)) ∧
      options.flags =
        ((OptionKey.all.filter options.isOn).map OptionKey.flag).sum := by
  intro options
  refine ⟨?_, options.flags_eq_sum⟩
  intro key
  refine ⟨?_, ?_, options.isOn_flagSet key, options.isOn_eq_flag key⟩
  · rw [get_resolve, get?_adjustAll]
  · rw [get_resolve, get_resolve, get?_adjustAll_filter]

/-
What is filled in counts only as long as there is no other value, and then the
first time only.
-/
example :
    let options := (Settings.unset.adjustAll
      [.fill (.nilPointer false), .fill (.addressOfYieldsPointer false),
        .replace (.nilPointer true),
        .fill (.addressOfYieldsPointer true)]).resolve
    options.nilPointer = true ∧ options.addressOfYieldsPointer = false ∧
      options.flags = 6 := by
  decide

end TypeRules
