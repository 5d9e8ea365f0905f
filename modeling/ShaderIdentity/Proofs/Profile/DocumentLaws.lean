import ShaderIdentity.Profile.Document
import ShaderIdentity.Proofs.Profile.SettingsLaws
import ShaderIdentity.Proofs.Shader.FingerprintText

/-! What a document says: its sections entry by entry, the order in which they are listed, and the
document that is written for given profiles. -/
namespace ShaderIdentity.Document

open Json Json.Value

/-! ## Sections -/

theorem readSection_object (stage : Stage) (members : List (String × Value)) :
    readSection stage (some (.object members)) =
      ⟨members.flatMap fun member => (readEntry stage member.1 member.2).entries,
        members.flatMap fun member => (readEntry stage member.1 member.2).issues⟩ := by
  change members.foldr (fun member rest => (readEntry stage member.1 member.2).append rest) ⟨[], []⟩
    = _
  induction members with
  | nil => rfl
  | cons member rest ih => rw [List.foldr_cons, ih, Reading.append, List.flatMap_cons,
      List.flatMap_cons]

/-- An entry is listed under the fingerprint that its key is the text of. -/
theorem text_of_mem_readEntry {stage : Stage} {key : String} {value : Value}
    {entry : Fingerprint × Settings} (mem : entry ∈ (readEntry stage key value).entries) :
    entry.1.text = key := by
  unfold readEntry at mem
  split at mem
  · exact absurd mem List.not_mem_nil
  · rename_i fingerprint read
    split at mem
    · rw [List.mem_singleton.mp mem]
      exact Fingerprint.text_of_parse read
    · exact absurd mem List.not_mem_nil

theorem readEntry_entries_length (stage : Stage) (key : String) (value : Value) :
    (readEntry stage key value).entries.length ≤ 1 := by
  unfold readEntry
  split
  · exact Nat.zero_le 1
  · split
    · exact Nat.le_refl 1
    · exact Nat.zero_le 1

/-- Entries in the order of the texts of their fingerprints, none of which is listed twice. -/
def Listed (entries : List (Fingerprint × Settings)) : Prop :=
  entries.Pairwise fun a b => a.1.text < b.1.text

theorem listed_of_length_le_one {entries : List (Fingerprint × Settings)}
    (short : entries.length ≤ 1) : Listed entries := by
  match entries with
  | [] => exact List.Pairwise.nil
  | [entry] => exact List.pairwise_singleton _ entry
  | _ :: _ :: _ => simp at short

/-- Members in the order of their keys give entries in that order. -/
theorem listed_of_ordered (stage : Stage) {members : List (String × Value)}
    (ordered : Ordered members) :
    Listed (members.flatMap fun member => (readEntry stage member.1 member.2).entries) := by
  induction members with
  | nil => exact List.Pairwise.nil
  | cons member rest ih =>
    obtain ⟨below, others⟩ := List.pairwise_cons.mp ordered
    rw [List.flatMap_cons]
    refine List.pairwise_append.mpr
      ⟨listed_of_length_le_one (readEntry_entries_length stage _ _), ih others, ?_⟩
    intro a here b there
    obtain ⟨later, mem, read⟩ := List.mem_flatMap.mp there
    rw [text_of_mem_readEntry here, text_of_mem_readEntry read]
    exact below later mem

/-! ## Canonical sections -/

theorem canonical_of_lookup {members : List (String × Value)} {key : String} {value : Value}
    (found : (sortMembers (canonicalMembers members)).lookup key = some value) :
    ∃ written : Value, value = written.canonical := by
  obtain ⟨written, -, same⟩ := written_of_lookup found
  exact ⟨written, same⟩

theorem readSection_listed (stage : Stage) {found : Option Value}
    (canonical : ∀ value, found = some value → ∃ written : Value, value = written.canonical) :
    Listed (readSection stage found).entries := by
  match found with
  | none => exact List.Pairwise.nil
  | some value =>
    obtain ⟨written, rfl⟩ := canonical value rfl
    cases written with
    | object members =>
      rw [Value.canonical, readSection_object]
      exact listed_of_ordered stage (sortMembers_ordered _)
    | null | boolean | number | string | array => exact List.Pairwise.nil

/-- The value of a text is in canonical form. -/
theorem canonical_of_parse {text : String} {value : Value} (read : Value.parse text = .ok value) :
    ∃ written : Value, value = written.canonical := by
  obtain ⟨⟨written, rest⟩, _, read⟩ := ok_of_bind read
  obtain ⟨_, _, read⟩ := ok_of_bind read
  cases read
  exact ⟨written, rfl⟩

theorem entries_of_ofValue {members : List (String × Value)} {contents : Contents}
    (read : ofValue (.object members) = .ok contents) (stage : Stage) :
    contents.entries.get stage =
      (readSection stage (members.lookup (Section.shaders stage).name)).entries := by
  obtain ⟨_, _, read⟩ := ok_of_bind read
  cases read
  cases stage <;> rfl

/-- Whatever a document looks like, its entries come in the order of their keys and none comes
twice. -/
theorem decode_listed {text : String} {contents : Contents} (read : decode text = .ok contents)
    (stage : Stage) : Listed (contents.entries.get stage) := by
  unfold decode at read
  cases parsed : Value.parse text with
  | error failure => rw [parsed] at read; cases read
  | ok value =>
    rw [parsed] at read
    obtain ⟨written, rfl⟩ := canonical_of_parse parsed
    cases written with
    | object members =>
      rw [Value.canonical] at read
      rw [entries_of_ofValue read]
      exact readSection_listed stage fun value found => canonical_of_lookup found
    | null | boolean | number | string | array => cases read

/-! ## Written documents -/

/-- The profiles of a stage under the texts of their fingerprints, in the order of those. -/
def keyed (profiles : ProfileMap) : List (String × Fingerprint × Profile) :=
  sortMembers (profiles.toList.map fun entry => (entry.1.text, entry))

theorem keyed_perm (profiles : ProfileMap) :
    (keyed profiles).Perm (profiles.toList.map fun entry => (entry.1.text, entry)) := by
  refine sortMembers_perm ?_
  rw [List.map_map]
  refine List.pairwise_map.mpr (profiles.distinct_keys_toList.imp ?_)
  intro a b distinct same
  exact distinct (by rw [Fingerprint.text_injective same]; exact Std.ReflCmp.compare_self)

theorem sectionValue_canonical (profiles : ProfileMap) :
    (sectionValue profiles).canonical = .object ((keyed profiles).map (Prod.map id fun entry =>
      (Settings.ofProfile entry.2).toValue.canonical)) := by
  rw [sectionValue, canonical, canonicalMembers_eq_map, keyed, ← sortMembers_map, List.map_map,
    List.map_map]
  rfl

theorem readEntry_written (stage : Stage) (fingerprint : Fingerprint) (settings : Settings) :
    readEntry stage fingerprint.text settings.toValue.canonical =
      ⟨[(fingerprint, settings)], []⟩ := by
  simp only [readEntry, Fingerprint.parse_text, Settings.ofValue_toValue_canonical]

/-- What is listed for written profiles. -/
def entriesOf (profiles : ProfileMap) : List (Fingerprint × Settings) :=
  (keyed profiles).map fun member => (member.2.1, Settings.ofProfile member.2.2)

theorem entriesOf_perm (profiles : ProfileMap) :
    (entriesOf profiles).Perm
      (profiles.toList.map fun entry => (entry.1, Settings.ofProfile entry.2)) := by
  have perm := (keyed_perm profiles).map fun member =>
    (member.2.1, Settings.ofProfile member.2.2)
  rwa [List.map_map] at perm

theorem readSection_written (stage : Stage) (profiles : ProfileMap) :
    readSection stage (some (sectionValue profiles).canonical) = ⟨entriesOf profiles, []⟩ := by
  have named : ∀ member ∈ keyed profiles, member.1 = member.2.1.text := by
    intro member mem
    obtain ⟨entry, -, rfl⟩ := List.mem_map.mp ((keyed_perm profiles).mem_iff.mp mem)
    rfl
  rw [sectionValue_canonical, readSection_object, entriesOf]
  generalize keyed profiles = members at named
  induction members with
  | nil => rfl
  | cons member rest ih =>
    obtain ⟨here, others⟩ := List.forall_mem_cons.mp named
    obtain ⟨key, fingerprint, profile⟩ := member
    obtain rfl : key = fingerprint.text := here
    have tail := ih others
    simp only [Reading.mk.injEq] at tail ⊢
    simp only [List.map_cons, List.flatMap_cons, Prod.map, id, readEntry_written, tail,
      List.singleton_append, List.nil_append, and_self]

theorem sectionValue_plain (depth : Nat) (profiles : ProfileMap) :
    (sectionValue profiles).Plain (depth + 3) := by
  refine .object fun member mem => ?_
  obtain ⟨entry, -, rfl⟩ := List.mem_map.mp mem
  exact Settings.toValue_plain depth _

theorem toValue_plain (depth : Nat) (profiles : PerStage ProfileMap) :
    (toValue profiles).Plain (depth + 4) := by
  refine .object fun member mem => ?_
  rcases List.mem_cons.mp mem with rfl | mem
  · exact .integer _ ⟨by decide, by decide⟩
  rcases List.mem_cons.mp mem with rfl | mem
  · exact sectionValue_plain depth _
  · rw [List.mem_singleton.mp mem]
    exact sectionValue_plain depth _

/-- The canonical form of a written document has what was written in each section. -/
theorem toValue_canonical (profiles : PerStage ProfileMap) :
    ∃ members, (toValue profiles).canonical = .object members ∧
      members.lookup Section.version.name = some (.number (.integer version)) ∧
      ∀ stage, members.lookup (Section.shaders stage).name =
        some (sectionValue (profiles.get stage)).canonical := by
  refine ⟨_, by rw [toValue, canonical], ?_, ?_⟩
  · rw [lookup_sortMembers]
    rfl
  · intro stage
    rw [lookup_sortMembers]
    cases stage <;> rfl

/-- A written document is read without an issue. -/
theorem decode_encode (profiles : PerStage ProfileMap) :
    decode (encode profiles) =
      .ok ⟨version, .ofStage fun stage => entriesOf (profiles.get stage), []⟩ := by
  obtain ⟨members, shown, atVersion, atStage⟩ := toValue_canonical profiles
  have readable : readVersion (some (.number (.integer version))) = .ok (version, []) := rfl
  rw [decode, encode, parse_pretty (toValue_plain 123 profiles), shown]
  simp only [ofValue, atVersion, atStage, readable, ok_bind, readSection_written]
  rfl

theorem mem_entriesOf {profiles : ProfileMap} {fingerprint : Fingerprint} {settings : Settings} :
    (fingerprint, settings) ∈ entriesOf profiles ↔
      (profiles[fingerprint]?).map Settings.ofProfile = some settings := by
  rw [(entriesOf_perm profiles).mem_iff, List.mem_map, Option.map_eq_some_iff]
  constructor
  · rintro ⟨entry, mem, same⟩
    cases same
    exact ⟨entry.2, Std.ExtTreeMap.mem_toList_iff_getElem?_eq_some.mp mem, rfl⟩
  · rintro ⟨profile, found, rfl⟩
    exact ⟨(fingerprint, profile), Std.ExtTreeMap.mem_toList_iff_getElem?_eq_some.mpr found, rfl⟩

/-- Nothing but the settings is written. -/
theorem sectionValue_congr {a b : ProfileMap}
    (same : ∀ fingerprint : Fingerprint,
      (a[fingerprint]?).map Settings.ofProfile = (b[fingerprint]?).map Settings.ofProfile) :
    sectionValue a = sectionValue b := by
  have written : ∀ profiles : ProfileMap, sectionValue profiles =
      .object ((profiles.map fun _ => Settings.ofProfile).toList.map fun entry =>
        (entry.1.text, entry.2.toValue)) := by
    intro profiles
    rw [Std.ExtTreeMap.toList_map, List.map_map]
    rfl
  have equal : a.map (fun _ => Settings.ofProfile) = b.map fun _ => Settings.ofProfile := by
    apply Std.ExtTreeMap.ext_getElem?
    intro fingerprint
    rw [Std.ExtTreeMap.getElem?_map, Std.ExtTreeMap.getElem?_map, same]
  rw [written, written, equal]

/-- Two documents are the same when they hold the same settings. -/
theorem encode_eq_iff {a b : PerStage ProfileMap} :
    encode a = encode b ↔ ∀ stage (fingerprint : Fingerprint),
      ((a.get stage)[fingerprint]?).map Settings.ofProfile =
        ((b.get stage)[fingerprint]?).map Settings.ofProfile := by
  constructor
  · intro same stage fingerprint
    have read := (decode_encode a).symm.trans ((congrArg decode same).trans (decode_encode b))
    have entries := congrArg (fun entries => entries.get stage)
      (congrArg Contents.entries (Except.ok.inj read))
    simp only [PerStage.get_ofStage] at entries
    ext settings
    rw [← mem_entriesOf, ← mem_entriesOf, entries]
  · intro same
    have vertex : sectionValue a.vertex = sectionValue b.vertex :=
      sectionValue_congr (same .vertex)
    have pixel : sectionValue a.pixel = sectionValue b.pixel := sectionValue_congr (same .pixel)
    rw [encode, encode, toValue, toValue, vertex, pixel]

/-- A document is written in the order of the fingerprints, which is not that of their texts. -/
theorem read_encode (profiles : PerStage ProfileMap) :
    Value.read greatestDepth (encode profiles).toList = .ok (toValue profiles, []) := by
  have back := read_write Layout.indented_blank (toValue_plain 123 profiles) 0 [] endsNumeral_nil
  rw [List.append_nil] at back
  rw [encode, pretty, String.toList_ofList]
  exact back

end ShaderIdentity.Document
