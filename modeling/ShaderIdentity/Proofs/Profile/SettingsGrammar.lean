import ShaderIdentity.Proofs.Json.RecordLaws
import ShaderIdentity.Proofs.Profile.SettingsLaws

/-!
Which values are settings. Decoding a value and decoding its text accept the same ones, and they
agree on what these say.
-/
namespace ShaderIdentity.Settings

open Json Json.Decoder

/-! ## What a value stands for -/

def StandsForFlag (value : Value) (b : Bool) : Prop :=
  value = .boolean b

/-- An integer of 32 bits without a sign. -/
def StandsForWord (value : Value) (word : UInt32) : Prop :=
  value = .number (.integer word.toNat)

/-- An array of such integers, in any order and any number of times each. -/
def StandsForRegisters (value : Value) (registers : RegisterSet) : Prop :=
  ∃ words : List UInt32, value = .array (words.map fun word => .number (.integer word.toNat)) ∧
    ∀ register, register ∈ registers ↔ register ∈ words

/-- What a field is: what the given value stands for, or what it is when none is given. -/
inductive Field {α : Type} (StandsFor : Value → α → Prop) (absent : α) : Option Value → α → Prop
  | absent : Field StandsFor absent none absent
  | given {value : Value} {a : α} (stands : StandsFor value a) :
      Field StandsFor absent (some value) a

/-- The four fields, each given a value or nothing. -/
structure Fields (activate shaderFlags constantVs constantPs : Option Value) (settings : Settings) :
    Prop where
  activate : Field StandsForFlag true activate settings.activate
  flags : Field StandsForWord 0 shaderFlags settings.flags.bits
  vertex : Field StandsForRegisters ∅ constantVs settings.watched.vertex
  pixel : Field StandsForRegisters ∅ constantPs settings.watched.pixel

/-- Settings are an object, in which other members say nothing, or an array of at most four items
for the first fields in order. -/
inductive Describes : Value → Settings → Prop
  | object {members : List (String × Value)} {settings : Settings}
      (fields : Fields (members.lookup "Activate") (members.lookup "ShaderFlags")
        (members.lookup "ConstantVs") (members.lookup "ConstantPs") settings) :
      Describes (.object members) settings
  | array {items : List Value} {settings : Settings} (short : items.length ≤ 4)
      (fields : Fields items[0]? items[1]? items[2]? items[3]? settings) :
      Describes (.array items) settings

/-! ## What decodes -/

theorem boolean_eq_ok {value : Value} {b : Bool} :
    boolean.ofValue value = .ok b ↔ StandsForFlag value b := by
  cases value <;> simp [boolean, StandsForFlag]

theorem word32_eq_ok {value : Value} {word : UInt32} :
    word32.ofValue value = .ok word ↔ StandsForWord value word := by
  constructor
  · intro decoded
    cases value with
    | number n =>
      cases n with
      | float x => cases decoded
      | integer n =>
        simp only [word32, map_ofValue, whole, wholeNumber] at decoded
        split at decoded
        · rename_i inside
          cases decoded
          have fits : n.toNat < UInt32.size := by omega
          rw [StandsForWord, UInt32.toNat_ofNat_of_lt' fits, Int.toNat_of_nonneg inside.1]
        · cases decoded
    | null | boolean | string | array | object => cases decoded
  · rintro rfl
    exact word32_ofValue word

theorem sequence_eq_ok {value : Value} {words : List UInt32} :
    (sequence word32).ofValue value = .ok words ↔
      value = .array (words.map fun word => .number (.integer word.toNat)) := by
  constructor
  · intro decoded
    cases value with
    | array items =>
      change items.mapM word32.ofValue = .ok words at decoded
      induction items generalizing words with
      | nil =>
        cases decoded
        rfl
      | cons item items ih =>
        rw [List.mapM_cons] at decoded
        obtain ⟨word, here, decoded⟩ := ok_of_bind decoded
        obtain ⟨others, behind, done⟩ := ok_of_bind decoded
        cases done
        rw [word32_eq_ok.mp here, Value.array.inj (ih behind)]
        rfl
    | null | boolean | number | string | object => cases decoded
  · rintro rfl
    exact sequence_ofValue word32_ofValue words

theorem registers_eq_ok {value : Value} {set : RegisterSet} :
    registers.ofValue value = .ok set ↔ StandsForRegisters value set := by
  have listed (words : List UInt32) (register : UInt32) :
      register ∈ Std.ExtTreeSet.ofList words ↔ register ∈ words := by
    rw [Std.ExtTreeSet.mem_ofList, List.contains_iff_mem]
  rw [registers, map_ofValue]
  constructor
  · intro decoded
    cases decoding : (sequence word32).ofValue value with
    | error cause =>
      rw [decoding] at decoded
      cases decoded
    | ok words =>
      rw [decoding] at decoded
      cases decoded
      exact ⟨words, sequence_eq_ok.mp decoding, listed words⟩
  · rintro ⟨words, rfl, same⟩
    rw [sequence_eq_ok.mpr rfl]
    refine congrArg Except.ok (Std.ExtTreeSet.ext_mem fun register => ?_)
    rw [listed, same]

theorem decoded?_eq_some {α : Type} {decoder : Decoder α} {StandsFor : Value → α → Prop}
    (decodes : ∀ {value a}, decoder.ofValue value = .ok a ↔ StandsFor value a) {absent : α}
    {given : Option Value} {a : α} :
    decoded? decoder absent given = some a ↔ Field StandsFor absent given a := by
  cases given with
  | none =>
    constructor
    · rintro ⟨⟩
      exact .absent
    · rintro ⟨⟩
      rfl
  | some value =>
    rw [decoded?, toOption_eq_some, decodes]
    constructor
    · exact .given
    · rintro ⟨stands⟩
      assumption

theorem fillGiven_fields (activate shaderFlags constantVs constantPs : Option Value)
    (settings : Settings) :
    fillGiven (fields.zip [activate, shaderFlags, constantVs, constantPs]) unset = .ok settings ↔
      Fields activate shaderFlags constantVs constantPs settings := by
  have filled : (fillGiven (fields.zip [activate, shaderFlags, constantVs, constantPs])
      unset).toOption = do
        let activate ← decoded? boolean true activate
        let bits ← decoded? word32 0 shaderFlags
        let vertex ← decoded? registers ∅ constantVs
        let pixel ← decoded? registers ∅ constantPs
        return ⟨activate, ⟨bits⟩, ⟨vertex, pixel⟩⟩ := by
    refine (fillGiven_field rfl _ _ _).trans (congrArg (Option.bind _) (funext fun activate => ?_))
    refine (fillGiven_field rfl _ _ _).trans (congrArg (Option.bind _) (funext fun bits => ?_))
    refine (fillGiven_field rfl _ _ _).trans (congrArg (Option.bind _) (funext fun vertex => ?_))
    exact (fillGiven_field rfl _ _ _).trans (congrArg (Option.bind _) (funext fun pixel => rfl))
  rw [← toOption_eq_some, filled]
  constructor
  · intro found
    obtain ⟨activate, atActivate, found⟩ := Option.bind_eq_some_iff.mp found
    obtain ⟨bits, atFlags, found⟩ := Option.bind_eq_some_iff.mp found
    obtain ⟨vertex, atVertex, found⟩ := Option.bind_eq_some_iff.mp found
    obtain ⟨pixel, atPixel, done⟩ := Option.bind_eq_some_iff.mp found
    cases done
    exact ⟨(decoded?_eq_some boolean_eq_ok).mp atActivate,
      (decoded?_eq_some word32_eq_ok).mp atFlags,
      (decoded?_eq_some registers_eq_ok).mp atVertex,
      (decoded?_eq_some registers_eq_ok).mp atPixel⟩
  · rintro ⟨atActivate, atFlags, atVertex, atPixel⟩
    rw [(decoded?_eq_some boolean_eq_ok).mpr atActivate,
      (decoded?_eq_some word32_eq_ok).mpr atFlags,
      (decoded?_eq_some registers_eq_ok).mpr atVertex,
      (decoded?_eq_some registers_eq_ok).mpr atPixel]
    rfl

theorem fields_commute : fields.Pairwise Commute := by
  simp only [fields, List.pairwise_cons, List.forall_mem_cons]
  exact ⟨⟨field_commute (fun _ _ _ => rfl) _ _, field_commute (fun _ _ _ => rfl) _ _,
      field_commute (fun _ _ _ => rfl) _ _, nofun⟩,
    ⟨field_commute (fun _ _ _ => rfl) _ _, field_commute (fun _ _ _ => rfl) _ _, nofun⟩,
    ⟨field_commute (fun _ _ _ => rfl) _ _, nofun⟩, nofun, .nil⟩

theorem registers_agrees (value : Value) : registers.Agrees value :=
  map_agrees (sequence_agrees word32_agrees value) _

theorem fields_agree : ∀ field ∈ fields, ∀ value, field.Agrees value := by
  simp only [fields, List.forall_mem_cons]
  exact ⟨fun value => field_agrees (boolean_agrees value) _ _,
    fun value => field_agrees (word32_agrees value) _ _,
    fun value => field_agrees (registers_agrees value) _ _,
    fun value => field_agrees (registers_agrees value) _ _, nofun⟩

theorem givenBy_fields (members : List (String × Value)) :
    givenBy members fields = fields.zip [members.lookup "Activate", members.lookup "ShaderFlags",
      members.lookup "ConstantVs", members.lookup "ConstantPs"] := rfl

theorem givenInOrder_fields (items : List Value) :
    givenInOrder items fields = fields.zip [items[0]?, items[1]?, items[2]?, items[3]?] := by
  rfl

/-! ## Both decoders -/

variable {value : Value}

/-- Decoding a value gives the settings that it describes, and fails when there are none. -/
theorem ofValue_eq_ok
    (distinct : ∀ members, value = .object members → (members.map Prod.fst).Nodup)
    (settings : Settings) : decoder.ofValue value = .ok settings ↔ Describes value settings := by
  rw [decoder, record_ofValue fields_commute (by decide) _ _
    fun members same => namedOnce_of_distinct fields (distinct members same)]
  constructor
  · rintro (⟨members, rfl, filled⟩ | ⟨items, rfl, short, filled⟩)
    · rw [givenBy_fields, fillGiven_fields] at filled
      exact .object filled
    · rw [givenInOrder_fields, fillGiven_fields] at filled
      exact .array short filled
  · rintro (⟨filled⟩ | ⟨short, filled⟩)
    · exact .inl ⟨_, rfl, by rw [givenBy_fields, fillGiven_fields]; exact filled⟩
    · exact .inr ⟨_, rfl, short, by rw [givenInOrder_fields, fillGiven_fields]; exact filled⟩

/-- Decoding any text that spells the value comes to the same. -/
theorem parse_eq_ok
    (distinct : ∀ members, value = .object members → (members.map Prod.fst).Nodup)
    {text : String} (spelled : value.SpelledBy text) (settings : Settings) :
    decoder.parse text = .ok settings ↔ Describes value settings := by
  have agrees : decoder.Agrees value := record_agrees fields_agree _ unset
    fun members same => namedOnce_of_distinct fields (distinct members same)
  rw [← toOption_eq_some, parse_spelledBy agrees spelled, toOption_eq_some, ofValue_eq_ok distinct]

/-- Values that no field takes. -/
inductive Unfit : Value → Prop
  | null : Unfit .null
  | float (x : Binary64) : Unfit (.number (.float x))
  | negative {n : Int} (below : n < 0) : Unfit (.number (.integer n))
  | large {n : Int} (above : UInt32.size ≤ n) : Unfit (.number (.integer n))
  | string (s : String) : Unfit (.string s)

/-- The value is given to a field, by name or by place. -/
inductive Gives : Value → Value → Prop
  | member {members : List (String × Value)} {field : RecordField Settings} {given : Value}
      (known : field ∈ fields) (found : members.lookup field.name = some given) :
      Gives (.object members) given
  | item {items : List Value} {given : Value} (mem : given ∈ items) : Gives (.array items) given

theorem StandsForFlag.fit {b : Bool} (stands : StandsForFlag value b) : ¬ Unfit value := by
  rintro unfit
  rw [StandsForFlag] at stands
  subst stands
  cases unfit

theorem StandsForWord.fit {word : UInt32} (stands : StandsForWord value word) : ¬ Unfit value := by
  intro unfit
  have small : word.toNat < UInt32.size := word.toNat_lt
  rw [StandsForWord] at stands
  subst stands
  cases unfit with
  | negative below => omega
  | large above => omega

theorem StandsForRegisters.fit {set : RegisterSet} (stands : StandsForRegisters value set) :
    ¬ Unfit value := by
  obtain ⟨words, rfl, -⟩ := stands
  rintro ⟨⟩

theorem Field.fit {α : Type} {StandsFor : Value → α → Prop} {absent a : α}
    {given : Option Value} (field : Field StandsFor absent given a)
    (fit : ∀ {value a}, StandsFor value a → ¬ Unfit value) (same : given = some value) :
    ¬ Unfit value := by
  cases field with
  | absent => cases same
  | given stands =>
    cases same
    exact fit stands

variable {settings : Settings}

theorem Fields.fit {activate shaderFlags constantVs constantPs : Option Value}
    (fields : Fields activate shaderFlags constantVs constantPs settings)
    (mem : some value ∈ [activate, shaderFlags, constantVs, constantPs]) : ¬ Unfit value := by
  simp only [List.mem_cons, List.not_mem_nil, or_false] at mem
  obtain same | same | same | same := mem
  · exact fields.activate.fit StandsForFlag.fit same.symm
  · exact fields.flags.fit StandsForWord.fit same.symm
  · exact fields.vertex.fit StandsForRegisters.fit same.symm
  · exact fields.pixel.fit StandsForRegisters.fit same.symm

theorem Describes.fit {given : Value} (describes : Describes value settings)
    (gives : Gives value given) : ¬ Unfit given := by
  cases describes with
  | object filled =>
    cases gives with
    | member known found =>
      refine filled.fit ?_
      rw [← found]
      simp only [fields, List.mem_cons, List.not_mem_nil, or_false] at known
      obtain rfl | rfl | rfl | rfl := known <;> simp [field]
  | array short filled =>
    cases gives with
    | item mem =>
      refine filled.fit ?_
      obtain ⟨i, within, rfl⟩ := List.mem_iff_getElem.mp mem
      rw [← List.getElem?_eq_getElem within]
      have place : i = 0 ∨ i = 1 ∨ i = 2 ∨ i = 3 := by omega
      obtain rfl | rfl | rfl | rfl := place <;> simp

/-- Both decoders accept the values that describe settings and give these settings. A value that no
field takes is never passed over where a field is given it. -/
theorem settings_grammar {value : Value}
    (distinct : ∀ members, value = .object members → (members.map Prod.fst).Nodup) :
    (∀ settings, decoder.ofValue value = .ok settings ↔ Describes value settings) ∧
    (∀ settings, decoder.parse value.compact = .ok settings ↔ Describes value settings) ∧
    ∀ given, Gives value given → Unfit given →
      (∃ cause, decoder.ofValue value = .error cause) ∧
      ∃ failure, decoder.parse value.compact = .error failure := by
  have asValue := ofValue_eq_ok distinct
  have asText := parse_eq_ok distinct (spelledBy_compact value)
  refine ⟨asValue, asText, fun given gives unfit => ⟨?_, ?_⟩⟩
  · cases decoded : decoder.ofValue value with
    | error cause => exact ⟨cause, rfl⟩
    | ok settings => exact absurd unfit (((asValue settings).mp decoded).fit gives)
  · cases decoded : decoder.parse value.compact with
    | error failure => exact ⟨failure, rfl⟩
    | ok settings => exact absurd unfit (((asText settings).mp decoded).fit gives)

/-- Registers that are listed twice, the greatest word, and a member that no field is named by. -/
theorem crowded_record_described :
    let value : Value := .object [
      ("ConstantVs", .array [.number (.integer 170), .number (.integer 2), .number (.integer 170)]),
      ("Note", .array [.null, .object [("Activate", .number (.float ⟨true, 0, -1074⟩))]]),
      ("ShaderFlags", .number (.integer 4294967295))]
    let settings : Settings := ⟨true, ⟨4294967295⟩, ⟨.ofList ([2, 170] : List UInt32), ∅⟩⟩
    (∀ members, value = .object members → (members.map Prod.fst).Nodup) ∧
      decoder.ofValue value = .ok settings ∧ decoder.parse value.compact = .ok settings := by
  intro value settings
  have distinct : ∀ members, value = .object members → (members.map Prod.fst).Nodup := by
    intro members same
    rw [← Value.object.inj same]
    decide
  have described : Describes value settings := by
    refine .object ⟨.absent, .given rfl, .given ⟨[170, 2, 170], rfl, fun register => ?_⟩, .absent⟩
    simp only [settings, Std.ExtTreeSet.mem_ofList, List.contains_iff_mem, List.mem_cons,
      List.not_mem_nil, or_false]
    tauto
  obtain ⟨asValue, asText, _⟩ := settings_grammar distinct
  exact ⟨distinct, (asValue settings).mpr described, (asText settings).mpr described⟩

end ShaderIdentity.Settings
