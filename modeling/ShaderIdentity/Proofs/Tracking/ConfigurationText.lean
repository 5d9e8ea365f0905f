import Mathlib.Data.Finset.Insert
import ShaderIdentity.Proofs.Json.TypedReading
import ShaderIdentity.Tracking.Configuration

/-! A text that gives some parts of a configuration leaves the others at their defaults. -/
namespace ShaderIdentity.Configuration

open Json Json.Decoder

/-- A part of a configuration that a text can give. -/
inductive Part where
  | profilePath
  | listingDirectory
  | scanListings
  | bytecodeLimit
  deriving DecidableEq, Repr

namespace Part

def name : Part → String
  | profilePath => "profilePath"
  | listingDirectory => "disassemblyDir"
  | scanListings => "scanDisassembly"
  | bytecodeLimit => "maxBytecodeBytes"

def value (configuration : Configuration) : Part → Value
  | profilePath => .string configuration.profilePath
  | listingDirectory => .string configuration.listingDirectory
  | scanListings => .boolean configuration.scanListings
  | bytecodeLimit => .number (.integer configuration.bytecodeLimit.toNat)

/-- Puts the part of one configuration into another one. -/
def put (chosen : Configuration) : Part → Configuration → Configuration
  | profilePath, config => { config with profilePath := chosen.profilePath }
  | listingDirectory, config => { config with listingDirectory := chosen.listingDirectory }
  | scanListings, config => { config with scanListings := chosen.scanListings }
  | bytecodeLimit, config => { config with bytecodeLimit := chosen.bytecodeLimit }

def all : Finset Part := {profilePath, listingDirectory, scanListings, bytecodeLimit}

theorem name_injective {p q : Part} (same : p.name = q.name) : p = q := by
  revert same
  cases p <;> cases q <;> decide

end Part

/-- The given parts of one configuration, and the others of the defaults. -/
def partly (chosen : Configuration) (given : Finset Part) (defaults : Configuration) :
    Configuration where
  profilePath := if .profilePath ∈ given then chosen.profilePath else defaults.profilePath
  listingDirectory :=
    if .listingDirectory ∈ given then chosen.listingDirectory else defaults.listingDirectory
  scanListings := if .scanListings ∈ given then chosen.scanListings else defaults.scanListings
  bytecodeLimit := if .bytecodeLimit ∈ given then chosen.bytecodeLimit else defaults.bytecodeLimit

theorem partly_insert (chosen : Configuration) (given : Finset Part) (part : Part)
    (defaults : Configuration) :
    chosen.partly (insert part given) defaults =
      chosen.partly given (part.put chosen defaults) := by
  cases part <;> simp [partly, Part.put]

theorem partly_all (chosen defaults : Configuration) :
    chosen.partly Part.all defaults = chosen := rfl

/-- Members that give just these parts of a configuration, in any order and each once. Other members
may stand between them that name no part. -/
inductive Gives (chosen : Configuration) : Finset Part → List (String × Value) → Prop
  | nothing : Gives chosen ∅ []
  | part {given : Finset Part} {members : List (String × Value)} (part : Part)
      (new : part ∉ given) (others : Gives chosen given members) :
      Gives chosen (insert part given) ((part.name, part.value chosen) :: members)
  | unknown {given : Finset Part} {members : List (String × Value)} {key : String} (value : Value)
      (noPart : ∀ part : Part, part.name ≠ key) (others : Gives chosen given members) :
      Gives chosen given ((key, value) :: members)

variable {chosen : Configuration} {given : Finset Part} {members : List (String × Value)}

theorem Gives.mem_of_named (gives : Gives chosen given members) {part : Part}
    {member : String × Value} (mem : member ∈ members) (named : part.name = member.1) :
    part ∈ given := by
  induction gives with
  | nothing => cases mem
  | part another new others ih =>
    rcases List.mem_cons.mp mem with rfl | behind
    · rw [Part.name_injective named]
      exact Finset.mem_insert_self _ _
    · exact Finset.mem_insert_of_mem (ih behind)
  | unknown value noPart others ih =>
    rcases List.mem_cons.mp mem with rfl | behind
    · exact absurd named (noPart part)
    · exact ih behind

/-! ## Fields -/

theorem named_of_mem {field : RecordField Configuration} (mem : field ∈ fields) :
    ∃ part : Part, part.name = field.name := by
  simp only [fields, List.mem_cons, List.not_mem_nil, or_false] at mem
  obtain rfl | rfl | rfl | rfl := mem
  exacts [⟨.profilePath, rfl⟩, ⟨.listingDirectory, rfl⟩, ⟨.scanListings, rfl⟩,
    ⟨.bytecodeLimit, rfl⟩]

theorem Gives.namedOnce (gives : Gives chosen given members) : NamedOnce fields members := by
  induction gives with
  | nothing => exact .nil
  | part part new others ih =>
    exact .cons (fun member behind same => absurd (others.mem_of_named behind same) new) ih
  | unknown value noPart others ih =>
    refine .cons (fun member behind same field mem => ?_) ih
    obtain ⟨part, named⟩ := named_of_mem mem
    exact named ▸ noPart part

theorem limit_ofValue (limit : UInt64) :
    Configuration.limit.ofValue (.number (.integer limit.toNat)) = .ok limit := by
  rw [Configuration.limit, map_ofValue, whole_ofValue limit.toNat_lt]
  exact congrArg Except.ok UInt64.ofNat_toNat

theorem fields_agree : ∀ field ∈ fields, ∀ value, field.Agrees value := by
  simp only [fields, List.forall_mem_cons]
  exact ⟨fun value => field_agrees (string_agrees _ value) _ _,
    fun value => field_agrees (string_agrees _ value) _ _,
    fun value => field_agrees (boolean_agrees value) _ _,
    fun value => field_agrees (map_agrees (whole_agrees (Nat.le_refl _) _ value) _) _ _, nofun⟩

theorem fillMember_part (part : Part) (chosen config : Configuration) :
    fillMember fields config (part.name, part.value chosen) = .ok (part.put chosen config) := by
  cases part with
  | profilePath | listingDirectory | scanListings => rfl
  | bytecodeLimit =>
    have named : fields.find? (fun field => field.name = "maxBytecodeBytes") =
        some (field "maxBytecodeBytes" limit fun config bytes =>
          { config with bytecodeLimit := bytes }) := rfl
    exact fillMember_ok _ named (limit_ofValue chosen.bytecodeLimit) config

theorem fillMember_unknown {key : String} (noPart : ∀ part : Part, part.name ≠ key) (value : Value)
    (config : Configuration) : fillMember fields config (key, value) = .ok config := by
  have unnamed : fields.find? (fun field => field.name = key) = none := by
    refine List.find?_eq_none.mpr fun field mem => ?_
    obtain ⟨part, named⟩ := named_of_mem mem
    simpa [← named] using noPart part
  simp only [fillMember, unnamed]

/-! ## Texts -/

/-- Every member in turn puts its part in, or nothing. -/
theorem Gives.fill (gives : Gives chosen given members) (defaults : Configuration) :
    members.foldlM (fillMember fields) defaults = .ok (chosen.partly given defaults) := by
  induction gives generalizing defaults with
  | nothing => rfl
  | part part new others ih =>
    rw [List.foldlM_cons, fillMember_part, ok_bind, ih, partly_insert]
  | unknown value noPart others ih =>
    rw [List.foldlM_cons, fillMember_unknown noPart, ok_bind, ih]

theorem parse_gives (gives : Gives chosen given members) {text : String}
    (spelled : (Value.object members).SpelledBy text) (defaults : Configuration) :
    (decoder defaults).parse text = .ok (chosen.partly given defaults) := by
  have agrees : (decoder defaults).Agrees (.object members) :=
    record_agrees fields_agree _ defaults fun _ same => Value.object.inj same ▸ gives.namedOnce
  rw [← toOption_eq_some, parse_spelledBy agrees spelled, toOption_eq_some, decoder,
    record_ofValue_object, gives.fill]

theorem gives_toValue (chosen : Configuration) : ∃ members,
    chosen.toValue = .object members ∧ Gives chosen Part.all members :=
  ⟨_, rfl, .part .profilePath (by decide) (.part .listingDirectory (by decide)
    (.part .scanListings (by decide) (.part .bytecodeLimit (by decide) .nothing)))⟩

/-- Whatever text spells an object with some parts of a configuration, among any other members, is
read as the defaults with these parts put in. A configuration that is written is read back. -/
theorem configuration_text (chosen defaults : Configuration) :
    (∀ given members text, Gives chosen given members → (Value.object members).SpelledBy text →
      (decoder defaults).parse text = .ok (chosen.partly given defaults)) ∧
    (decoder defaults).parse chosen.toValue.compact = .ok chosen := by
  refine ⟨fun given members text gives spelled => parse_gives gives spelled defaults, ?_⟩
  obtain ⟨members, shown, gives⟩ := gives_toValue chosen
  have back := parse_gives gives (spelledBy_compact _) defaults
  rwa [← shown, partly_all] at back

/-- The greatest limit, a path with a quote, a backslash, a control character and one beyond the
basic plane, and an unknown member with the name of a part inside it. -/
theorem strange_path_read :
    let path := "C:\\\"\x01𝄞"
    let members : List (String × Value) := [
      ("maxBytecodeBytes", .number (.integer 18446744073709551615)),
      ("note", .array [.null, .object [("scanDisassembly", .boolean false)]]),
      ("profilePath", .string path)]
    (decoder (inDirectory "games")).parse (Value.object members).compact =
      .ok ⟨path, "games/DumpShader", true, 18446744073709551615⟩ := by
  intro path members
  have gives : Gives ⟨path, "", false, 18446744073709551615⟩
      {.bytecodeLimit, .profilePath} members :=
    .part .bytecodeLimit (by decide) (.unknown _ (by rintro ⟨⟩ <;> decide)
      (.part .profilePath (by decide) .nothing))
  exact (configuration_text _ (inDirectory "games")).1 _ _ _ gives (spelledBy_compact _)

end ShaderIdentity.Configuration
