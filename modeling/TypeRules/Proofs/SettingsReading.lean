import TypeRules.Proofs.Adjustments

/-!
# Settings are read in any order of members

An object is read member by member, and a member may be refused because of one
before it.  What an object asks for does not depend on the order, though:
`Readable` says which objects are accepted at all, and `Asks` which values an
object gives to which options, both by membership.  Reading one member carries
over to reading them all by induction, along with the options already met.

The main result is that an object is accepted exactly if it is readable, and
that it then sets what it asks for and nothing else.
-/

namespace TypeRules

/-! ## Values -/

/-- The words for a range. -/
def UnsignedRange.words : UnsignedRange → List String
  | .exact => ["Exact", "exact"]
  | .signed => ["Signed", "signed"]

/--
A value of an option as it is written: a truth value stands for itself, and a
range is one of its words, alone or as the only key of an object with no value.
-/
def OptionKey.Denotes : (key : OptionKey) → Json → key.Value → Prop
  | .unsignedRange, json, range =>
      ∃ word ∈ UnsignedRange.words range,
        json = .string word ∨ json = .object [(word, .null)]
  | .addressOfYieldsPointer, json, on => json = .bool on
  | .nilPointer, json, on => json = .bool on
  | .shiftOperandsExempt, json, on => json = .bool on
  | .untypedOperandConversion, json, on => json = .bool on

/-- The setting of an option to a value. -/
def OptionKey.setting : (key : OptionKey) → key.Value → Setting
  | .unsignedRange, range => .unsignedRange range
  | .addressOfYieldsPointer, on => .addressOfYieldsPointer on
  | .nilPointer, on => .nilPointer on
  | .shiftOperandsExempt, on => .shiftOperandsExempt on
  | .untypedOperandConversion, on => .untypedOperandConversion on

namespace UnsignedRange

theorem ofWord?_eq_some_iff {word : String} {range : UnsignedRange} :
    ofWord? word = some range ↔ word ∈ range.words := by
  unfold ofWord?
  split
  case isTrue exact =>
    rcases exact with rfl | rfl <;> cases range <;> decide
  case isFalse notExact =>
    split
    case isTrue signed =>
      rcases signed with rfl | rfl <;> cases range <;> decide
    case isFalse notSigned =>
      cases range <;> simp [words, notExact, notSigned]

theorem ofJson?_eq_some_iff {json : Json} {range : UnsignedRange} :
    ofJson? json = some range ↔
      ∃ word ∈ range.words,
        json = .string word ∨ json = .object [(word, .null)] := by
  unfold ofJson?
  split
  case h_1 word => simp [ofWord?_eq_some_iff]
  case h_2 word => simp [ofWord?_eq_some_iff]
  case h_3 noWord noObject =>
    constructor
    · intro found
      cases found
    · rintro ⟨word, _, rfl | rfl⟩
      · exact (noWord word rfl).elim
      · exact (noObject word rfl).elim

end UnsignedRange

theorem boolOfJson?_eq_some_iff {json : Json} {on : Bool} :
    boolOfJson? json = some on ↔ json = .bool on := by
  cases json <;> simp [boolOfJson?]

namespace OptionKey

@[simp]
theorem key_setting (key : OptionKey) (value : key.Value) :
    (key.setting value).key = key := by
  cases key <;> rfl

@[simp]
theorem value?_setting (key : OptionKey) (value : key.Value) :
    (key.setting value).value? key = some value := by
  cases key <;> rfl

theorem setting_inj {key : OptionKey} {value other : key.Value}
    (settings : key.setting value = key.setting other) : value = other := by
  have values := congrArg (·.value? key) settings
  simpa using values

theorem setting?_eq_some_iff {key : OptionKey} {json : Json}
    {setting : Setting} :
    key.setting? json = some setting ↔
      ∃ value, key.Denotes json value ∧ key.setting value = setting := by
  cases key with
  | unsignedRange =>
      rw [setting?, Option.map_eq_some_iff]
      simp only [UnsignedRange.ofJson?_eq_some_iff]
      rfl
  | addressOfYieldsPointer | nilPointer | shiftOperandsExempt
  | untypedOperandConversion =>
      rw [setting?, Option.map_eq_some_iff]
      simp only [boolOfJson?_eq_some_iff]
      rfl

theorem Denotes.unique {key : OptionKey} {json : Json}
    {value other : key.Value} (denotes : key.Denotes json value)
    (otherDenotes : key.Denotes json other) : value = other := by
  have found := setting?_eq_some_iff.mpr ⟨value, denotes, rfl⟩
  rw [setting?_eq_some_iff.mpr ⟨other, otherDenotes, rfl⟩] at found
  exact (setting_inj (Option.some.inj found)).symm

theorem not_denotes_null {key : OptionKey} {value : key.Value} :
    ¬ key.Denotes .null value := by
  cases key <;> simp [Denotes]

/-! ## Keys -/

theorem ofText?_eq_some_iff {key : OptionKey} {text : String} :
    ofText? text = some key ↔ key.text = text := by
  constructor
  · intro found
    simpa using List.find?_some found
  · rintro rfl
    cases key <;> rfl

theorem text_inj {key other : OptionKey} :
    key.text = other.text ↔ key = other := by
  rw [← ofText?_eq_some_iff, ofText?_eq_some_iff.mpr rfl, Option.some_inj]
  exact eq_comm

end OptionKey

namespace Settings

/-! ## Members -/

/--
An object is accepted: its keys are those of options, none of them is there
twice, and each value is `null` or a value of its option.
-/
structure Readable (members : List (String × Json)) : Prop where
  known : ∀ member ∈ members, ∃ key : OptionKey, key.text = member.1
  distinct : (members.map Prod.fst).Nodup
  valid : ∀ (key : OptionKey) (json : Json), (key.text, json) ∈ members →
    json = .null ∨ ∃ value, key.Denotes json value

/-- An object asks for a value of an option. -/
def Asks (members : List (String × Json)) (key : OptionKey)
    (value : key.Value) : Prop :=
  ∃ json, (key.text, json) ∈ members ∧ key.Denotes json value

theorem readable_nil : Readable [] :=
  ⟨by simp, List.nodup_nil, by simp⟩

theorem readable_cons_iff {own : OptionKey} {json : Json}
    {members : List (String × Json)} :
    Readable ((own.text, json) :: members) ↔
      (json = .null ∨ ∃ value, own.Denotes json value) ∧
        own.text ∉ members.map Prod.fst ∧ Readable members := by
  constructor
  · intro readable
    have distinct := List.nodup_cons.mp readable.distinct
    exact ⟨readable.valid own json List.mem_cons_self, distinct.1,
      fun member among => readable.known member (List.mem_cons_of_mem _ among),
      distinct.2,
      fun key json among =>
        readable.valid key json (List.mem_cons_of_mem _ among)⟩
  · rintro ⟨valid, new, readable⟩
    refine ⟨?_, List.nodup_cons.mpr ⟨new, readable.distinct⟩, ?_⟩
    · exact List.forall_mem_cons.mpr ⟨⟨own, rfl⟩, readable.known⟩
    · intro key other among
      rcases List.mem_cons.mp among with same | among
      · obtain ⟨texts, rfl⟩ := Prod.mk.inj same
        obtain rfl := OptionKey.text_inj.mp texts
        exact valid
      · exact readable.valid key other among

theorem asks_cons_iff {own key : OptionKey} {json : Json}
    {members : List (String × Json)} {value : key.Value} :
    Asks ((own.text, json) :: members) key value ↔
      (key = own ∧ key.Denotes json value) ∨ Asks members key value := by
  constructor
  · rintro ⟨json, among, denotes⟩
    rcases List.mem_cons.mp among with same | among
    · obtain ⟨texts, rfl⟩ := Prod.mk.inj same
      exact .inl ⟨OptionKey.text_inj.mp texts, denotes⟩
    · exact .inr ⟨json, among, denotes⟩
  · rintro (⟨rfl, denotes⟩ | ⟨json, among, denotes⟩)
    · exact ⟨json, List.mem_cons_self, denotes⟩
    · exact ⟨json, List.mem_cons_of_mem _ among, denotes⟩

theorem Readable.perm {members others : List (String × Json)}
    (readable : Readable members) (same : members.Perm others) :
    Readable others where
  known member among := readable.known member (same.mem_iff.mpr among)
  distinct := (same.map Prod.fst).nodup_iff.mp readable.distinct
  valid key json among := readable.valid key json (same.mem_iff.mpr among)

theorem Asks.perm {members others : List (String × Json)} {key : OptionKey}
    {value : key.Value} (asks : Asks members key value)
    (same : members.Perm others) : Asks others key value := by
  obtain ⟨json, among, denotes⟩ := asks
  exact ⟨json, same.mem_iff.mp among, denotes⟩

/-! ## Reading -/

theorem ext_get? {settings other : Settings}
    (same : ∀ key, settings.get? key = other.get? key) : settings = other := by
  rcases settings with ⟨range, address, nil, exempt, converts⟩
  obtain rfl : range = _ := same .unsignedRange
  obtain rfl : address = _ := same .addressOfYieldsPointer
  obtain rfl : nil = _ := same .nilPointer
  obtain rfl : exempt = _ := same .shiftOperandsExempt
  obtain rfl : converts = _ := same .untypedOperandConversion
  rfl

theorem get?_unset (key : OptionKey) : unset.get? key = none := by
  cases key <;> rfl

theorem read?_eq_some_iff {settings next : Settings} {key : OptionKey}
    {json : Json} :
    settings.read? key json = some next ↔
      (json = .null ∧ settings = next) ∨
        ∃ value, key.Denotes json value ∧
          settings.set (key.setting value) = next := by
  unfold read?
  split
  case h_1 => simp [OptionKey.not_denotes_null]
  case h_2 notNull =>
    have given : json ≠ .null := notNull
    simp only [given, false_and, false_or, Option.map_eq_some_iff,
      OptionKey.setting?_eq_some_iff]
    constructor
    · rintro ⟨_, ⟨value, denotes, rfl⟩, rfl⟩
      exact ⟨value, denotes, rfl⟩
    · rintro ⟨value, denotes, rfl⟩
      exact ⟨_, ⟨value, denotes, rfl⟩, rfl⟩

/-- A member is read exactly if its value is `null` or one of its option. -/
theorem exists_read?_iff {settings : Settings} {key : OptionKey}
    {json : Json} :
    (∃ next, settings.read? key json = some next) ↔
      json = .null ∨ ∃ value, key.Denotes json value := by
  simp only [read?_eq_some_iff]
  constructor
  · rintro ⟨next, ⟨null, _⟩ | ⟨value, denotes, _⟩⟩
    · exact .inl null
    · exact .inr ⟨value, denotes⟩
  · rintro (null | ⟨value, denotes⟩)
    · exact ⟨settings, .inl ⟨null, rfl⟩⟩
    · exact ⟨_, .inr ⟨value, denotes, rfl⟩⟩

/-- A member gives its option the value that it denotes, if it denotes one. -/
theorem get?_of_read? {settings next : Settings} {own key : OptionKey}
    {json : Json} {value : key.Value} (free : settings.get? own = none)
    (read : settings.read? own json = some next) :
    next.get? key = some value ↔
      settings.get? key = some value ∨
        (key = own ∧ key.Denotes json value) := by
  rcases read?_eq_some_iff.mp read with ⟨rfl, rfl⟩ | ⟨given, denotes, rfl⟩
  · simp [OptionKey.not_denotes_null]
  · rw [get?_set]
    by_cases same : key = own
    · subst same
      rw [OptionKey.value?_setting, free]
      simp only [Option.some_or, Option.some_inj, reduceCtorEq, true_and,
        false_or]
      exact ⟨fun equal => equal ▸ denotes, denotes.unique⟩
    · have other : (own.setting given).key ≠ key := by
        rw [OptionKey.key_setting]
        exact Ne.symm same
      rw [Setting.value?_of_ne other]
      simp [same]

theorem readMembers?_cons_eq_some_iff {settings result : Settings}
    {met : List OptionKey} {text : String} {json : Json}
    {members : List (String × Json)} :
    settings.readMembers? met ((text, json) :: members) = some result ↔
      ∃ own : OptionKey, own.text = text ∧ own ∉ met ∧
        ∃ next, settings.read? own json = some next ∧
          next.readMembers? (own :: met) members = some result := by
  simp only [readMembers?, Option.bind_eq_bind, Option.bind_eq_some_iff,
    OptionKey.ofText?_eq_some_iff]
  refine exists_congr fun own => and_congr_right fun _ => ?_
  by_cases repeated : own ∈ met
  · simp [repeated]
  · simp [repeated, Option.bind_eq_some_iff]

/--
Members are read exactly if they are readable and none of them is about an
option that was met before.
-/
theorem exists_readMembers?_iff {settings : Settings} {met : List OptionKey}
    {members : List (String × Json)} :
    (∃ result, settings.readMembers? met members = some result) ↔
      (∀ key ∈ met, key.text ∉ members.map Prod.fst) ∧ Readable members := by
  -- A key that is there twice is refused because its option was met, so the
  -- options met take part in the induction.
  induction members generalizing settings met with
  | nil => exact iff_of_true ⟨settings, rfl⟩ ⟨by simp, readable_nil⟩
  | cons member members inductionHypothesis =>
      rcases member with ⟨text, json⟩
      simp only [readMembers?_cons_eq_some_iff]
      constructor
      · rintro ⟨result, own, rfl, new, next, read, rest⟩
        obtain ⟨apart, readable⟩ := inductionHypothesis.mp ⟨result, rest⟩
        obtain ⟨ownApart, metApart⟩ := List.forall_mem_cons.mp apart
        refine ⟨?_, readable_cons_iff.mpr
          ⟨exists_read?_iff.mp ⟨next, read⟩, ownApart, readable⟩⟩
        intro key before among
        rcases List.mem_cons.mp among with texts | among
        · exact new (OptionKey.text_inj.mp texts ▸ before)
        · exact metApart key before among
      · rintro ⟨apart, readable⟩
        obtain ⟨own, rfl⟩ := readable.known (text, json) List.mem_cons_self
        obtain ⟨valid, ownApart, later⟩ := readable_cons_iff.mp readable
        obtain ⟨next, read⟩ := exists_read?_iff.mpr valid
        have metApart :
            ∀ key ∈ own :: met, key.text ∉ members.map Prod.fst :=
          List.forall_mem_cons.mpr ⟨ownApart, fun key before among =>
            apart key before (List.mem_cons_of_mem _ among)⟩
        obtain ⟨result, rest⟩ := inductionHypothesis.mpr ⟨metApart, later⟩
        refine ⟨result, own, rfl, ?_, next, read, rest⟩
        intro before
        exact apart own before List.mem_cons_self

/-- Members that are read set the options that they ask for, and no others. -/
theorem get?_of_readMembers? {settings result : Settings}
    {met : List OptionKey} {members : List (String × Json)}
    (unmet : ∀ key ∉ met, settings.get? key = none)
    (read : settings.readMembers? met members = some result)
    {key : OptionKey} {value : key.Value} :
    result.get? key = some value ↔
      settings.get? key = some value ∨ Asks members key value := by
  induction members generalizing settings met with
  | nil =>
      cases read
      simp [Asks]
  | cons member members inductionHypothesis =>
      rcases member with ⟨text, json⟩
      obtain ⟨own, rfl, new, next, step, rest⟩ :=
        readMembers?_cons_eq_some_iff.mp read
      -- Only the option of this member can have been set, and it is met now.
      have nextUnmet : ∀ key ∉ own :: met, next.get? key = none := by
        intro key later
        obtain ⟨other, metApart⟩ := not_or.mp (mt List.mem_cons.mpr later)
        rw [Option.eq_none_iff_forall_ne_some]
        intro value found
        rcases (get?_of_read? (unmet own new) step).mp found with
          before | ⟨same, _⟩
        · rw [unmet key metApart] at before
          cases before
        · exact other same
      rw [inductionHypothesis nextUnmet rest,
        get?_of_read? (unmet own new) step, asks_cons_iff, or_assoc]

theorem exists_ofMembers?_iff {members : List (String × Json)} :
    (∃ settings, ofMembers? members = some settings) ↔ Readable members := by
  rw [ofMembers?, exists_readMembers?_iff]
  simp

theorem ofMembers?_eq_some_iff {settings : Settings}
    {members : List (String × Json)} :
    ofMembers? members = some settings ↔
      Readable members ∧
        ∀ (key : OptionKey) (value : key.Value),
          settings.get? key = some value ↔ Asks members key value := by
  have asked {result : Settings} (read : ofMembers? members = some result)
      (key : OptionKey) (value : key.Value) :
      result.get? key = some value ↔ Asks members key value := by
    rw [get?_of_readMembers? (fun key _ => get?_unset key) read, get?_unset]
    simp
  constructor
  · intro read
    exact ⟨exists_ofMembers?_iff.mp ⟨settings, read⟩, asked read⟩
  · rintro ⟨readable, wanted⟩
    obtain ⟨result, read⟩ := exists_ofMembers?_iff.mpr readable
    rw [read, Option.some_inj]
    apply ext_get?
    intro key
    apply Option.ext
    intro value
    rw [asked read, wanted]

theorem ofMembers?_perm {members others : List (String × Json)}
    (same : members.Perm others) : ofMembers? members = ofMembers? others := by
  have carried {members others : List (String × Json)}
      (same : members.Perm others) {settings : Settings}
      (read : ofMembers? members = some settings) :
      ofMembers? others = some settings := by
    obtain ⟨readable, asked⟩ := ofMembers?_eq_some_iff.mp read
    refine ofMembers?_eq_some_iff.mpr ⟨readable.perm same, ?_⟩
    intro key value
    rw [asked]
    exact ⟨(·.perm same), (·.perm same.symm)⟩
  apply Option.ext
  intro settings
  exact ⟨carried same, carried same.symm⟩

theorem ofJson?_array_eq_some_iff {items : List Json} {settings : Settings} :
    ofJson? (.array items) = some settings ↔
      items.length = OptionKey.all.length ∧
        ofMembers? ((OptionKey.all.map OptionKey.text).zip items) =
          some settings := by
  rw [ofJson?, Option.ite_none_right_eq_some]

/--
An object is read exactly if each of its keys is that of an option, no key is
there twice, and each value is `null` or a value of its option.  The settings
then have the values that the object asks for, and nothing else is set.  The
order of the members does not matter.  An array is read as the object that gives
its items to the options in their order, and only if there are as many.
-/
theorem objects_read_exactly (members : List (String × Json)) :
    ((∃ settings, ofJson? (.object members) = some settings) ↔
        Readable members) ∧
      (∀ settings, ofJson? (.object members) = some settings →
        ∀ (key : OptionKey) (value : key.Value),
          settings.get? key = some value ↔ Asks members key value) ∧
      (∀ others, members.Perm others →
        ofJson? (.object members) = ofJson? (.object others)) ∧
      ∀ items settings,
        ofJson? (.array items) = some settings ↔
          items.length = 5 ∧
            ofJson? (.object
              (["unsignedRange", "addressOfYieldsPointer", "nilPointer",
                "shiftOperandsExempt", "untypedOperandConversion"].zip
                  items)) = some settings := by
  refine ⟨exists_ofMembers?_iff, ?_, ?_, ?_⟩
  · intro settings read
    exact (ofMembers?_eq_some_iff.mp read).2
  · intro others same
    exact ofMembers?_perm same
  · intro items settings
    exact ofJson?_array_eq_some_iff

/-- Members for four options, one of them with no value. -/
def fourMembers : List (String × Json) :=
  [("untypedOperandConversion", .bool true), ("shiftOperandsExempt", .null),
    ("unsignedRange", .object [("signed", .null)]), ("nilPointer", .bool false)]

/-- What the four members ask for. -/
def fourSettings : Settings :=
  ⟨some .signed, none, some false, none, some true⟩

theorem objects_read_exactly_four :
    ofJson? (.object fourMembers) = some fourSettings ∧
      Readable fourMembers ∧
      Asks fourMembers .unsignedRange UnsignedRange.signed ∧
      ¬ Asks fourMembers .shiftOperandsExempt true ∧
      fourMembers.Perm fourMembers.reverse ∧
      ofJson? (.object fourMembers.reverse) = some fourSettings := by
  have read : ofJson? (.object fourMembers) = some fourSettings := rfl
  have reversed : fourMembers.Perm fourMembers.reverse :=
    (List.reverse_perm _).symm
  obtain ⟨accepted, asked, order, _⟩ := objects_read_exactly fourMembers
  refine ⟨read, accepted.mp ⟨_, read⟩, (asked _ read _ _).mp rfl, ?_, reversed,
    (order _ reversed).symm.trans read⟩
  intro asks
  cases (asked _ read .shiftOperandsExempt true).mpr asks

/- A key is refused the second time, even if it never has a value. -/
example :
    let member : String × Json := ("nilPointer", .null)
    ofJson? (.object [member]) = some unset ∧
      ofJson? (.object [member, member]) = none := by
  decide

end Settings

end TypeRules
