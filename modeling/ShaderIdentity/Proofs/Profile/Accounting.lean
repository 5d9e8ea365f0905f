import ShaderIdentity.Proofs.Json.NumberRange
import ShaderIdentity.Proofs.Profile.DocumentLaws

/-!
Decoding accounts for every part of a document: a key of a section is an entry or an issue, and
whatever else is left out is one issue.
-/
namespace ShaderIdentity.Document

open Json Json.Value

/-! ## What is reported -/

/-- The member gives the entry. -/
def Usable (member : String × Value) (entry : Fingerprint × Settings) : Prop :=
  member.1 = entry.1.text ∧ Settings.decoder.ofValue member.2 = .ok entry.2

/-- Every member in turn is reported once, as the entry that it gives or as an issue. -/
inductive MembersReported (stage : Stage) : List (String × Value) → Reading → Prop
  | nil : MembersReported stage [] ⟨[], []⟩
  | entry {member : String × Value} {rest : List (String × Value)} {reading : Reading}
      {entry : Fingerprint × Settings} (usable : Usable member entry)
      (others : MembersReported stage rest reading) :
      MembersReported stage (member :: rest) ⟨entry :: reading.entries, reading.issues⟩
  | issue {member : String × Value} {rest : List (String × Value)} {reading : Reading}
      {reason : Reason} (unusable : ∀ entry, ¬ Usable member entry)
      (others : MembersReported stage rest reading) :
      MembersReported stage (member :: rest)
        ⟨reading.entries, ⟨.shaders stage, some member.1, reason⟩ :: reading.issues⟩

/-- A missing or null section gives nothing, and what is no section is one issue. -/
inductive SectionReported (stage : Stage) : Option Value → Reading → Prop
  | missing : SectionReported stage none ⟨[], []⟩
  | null : SectionReported stage (some .null) ⟨[], []⟩
  | object {members : List (String × Value)} {reading : Reading} (ordered : Ordered members)
      (reported : MembersReported stage members reading) :
      SectionReported stage (some (.object members)) reading
  | other {value : Value} {reason : Reason} (notNull : value ≠ .null)
      (notObject : ∀ members, value ≠ .object members) :
      SectionReported stage (some value) ⟨[], [⟨.shaders stage, none, reason⟩]⟩

inductive VersionReported : Option Value → List Issue → Prop
  | missing : VersionReported none []
  | unsigned (found : Nat) : VersionReported (some (.number (.integer found))) []
  | other {value : Value} {reason : Reason}
      (notUnsigned : ∀ found : Nat, value ≠ .number (.integer found)) :
      VersionReported (some value) [⟨.version, none, reason⟩]

/-- The number of keys of a section. -/
def keyCount : Option Value → Nat
  | some (.object members) => members.length
  | _ => 0

def keyedIssues (issues : List Issue) : Nat :=
  issues.countP fun issue => issue.key.isSome

/-- What the members of a document come to. -/
structure Accounted (members : List (String × Value)) (contents : Contents) : Prop where
  reported : ∃ ofVersion : List Issue, ∃ ofSection : Stage → List Issue,
    contents.issues = ofVersion ++ ofSection .vertex ++ ofSection .pixel ∧
    VersionReported (members.lookup Section.version.name) ofVersion ∧
    ∀ stage, SectionReported stage (members.lookup (Section.shaders stage).name)
      ⟨contents.entries.get stage, ofSection stage⟩
  unique : ∀ stage, ((contents.entries.get stage).map Prod.fst).Nodup
  keys : contents.size + keyedIssues contents.issues =
    keyCount (members.lookup (Section.shaders .vertex).name) +
      keyCount (members.lookup (Section.shaders .pixel).name)

/-! ## Sections -/

theorem readEntry_reported (stage : Stage) (member : String × Value) :
    (∃ entry, Usable member entry ∧ readEntry stage member.1 member.2 = ⟨[entry], []⟩) ∨
    ((∀ entry, ¬ Usable member entry) ∧ ∃ reason,
      readEntry stage member.1 member.2 = ⟨[], [⟨.shaders stage, some member.1, reason⟩]⟩) := by
  obtain ⟨key, value⟩ := member
  simp only [readEntry]
  cases named : Fingerprint.parse key with
  | error err =>
    refine .inr ⟨?_, .badKey err, rfl⟩
    rintro ⟨fingerprint, settings⟩ ⟨rfl, -⟩
    rw [Fingerprint.parse_text] at named
    cases named
  | ok fingerprint =>
    have shown : fingerprint.text = key := Fingerprint.text_of_parse named
    cases decoded : Settings.decoder.ofValue value with
    | ok settings => exact .inl ⟨(fingerprint, settings), ⟨shown.symm, decoded⟩, rfl⟩
    | error cause =>
      refine .inr ⟨?_, .badSettings cause, rfl⟩
      rintro entry ⟨-, usable⟩
      rw [decoded] at usable
      cases usable

theorem readSection_cons (stage : Stage) (member : String × Value)
    (rest : List (String × Value)) :
    readSection stage (some (.object (member :: rest))) =
      (readEntry stage member.1 member.2).append (readSection stage (some (.object rest))) := rfl

theorem members_reported (stage : Stage) (members : List (String × Value)) :
    MembersReported stage members (readSection stage (some (.object members))) := by
  induction members with
  | nil => exact .nil
  | cons member rest ih =>
    rw [readSection_cons]
    obtain ⟨entry, usable, read⟩ | ⟨unusable, reason, read⟩ := readEntry_reported stage member
    · rw [read]
      exact .entry usable ih
    · rw [read]
      exact .issue unusable ih

theorem section_reported (stage : Stage) {found : Option Value}
    (ordered : ∀ members, found = some (.object members) → Ordered members) :
    SectionReported stage found (readSection stage found) := by
  match found with
  | none => exact .missing
  | some .null => exact .null
  | some (.object members) => exact .object (ordered members rfl) (members_reported stage members)
  | some (.boolean _) | some (.number _) | some (.string _) | some (.array _) =>
    exact .other (by rintro ⟨⟩) (by rintro _ ⟨⟩)

theorem keyedIssues_append (a b : List Issue) :
    keyedIssues (a ++ b) = keyedIssues a + keyedIssues b :=
  List.countP_append

theorem MembersReported.length {stage : Stage} {members : List (String × Value)}
    {reading : Reading} (reported : MembersReported stage members reading) :
    reading.entries.length + keyedIssues reading.issues = members.length := by
  unfold keyedIssues
  induction reported with
  | nil => rfl
  | entry usable others ih =>
    simp only [List.length_cons, ← ih]
    omega
  | issue unusable others ih =>
    simp only [List.countP_cons, List.length_cons, ← ih]
    rfl

theorem SectionReported.length {stage : Stage} {found : Option Value} {reading : Reading}
    (reported : SectionReported stage found reading) :
    reading.entries.length + keyedIssues reading.issues = keyCount found := by
  cases reported with
  | missing | null => rfl
  | object ordered reported => exact reported.length
  | @other value reason notNull notObject =>
    cases value with
    | null => exact absurd rfl notNull
    | object members => exact absurd rfl (notObject members)
    | boolean | number | string | array => rfl

/-! ## Versions -/

theorem VersionReported.keyedIssues {found : Option Value} {issues : List Issue}
    (reported : VersionReported found issues) : keyedIssues issues = 0 := by
  cases reported <;> rfl

/-- Only a number above the newest version turns a document away. -/
theorem readVersion_cases (found : Option Value) :
    (∃ newer : Nat, found = some (.number (.integer newer)) ∧ version < newer ∧
      readVersion found = .error (.unsupportedVersion newer)) ∨
    ((∀ n : Nat, found = some (.number (.integer n)) → n ≤ version) ∧
      ∃ read issues, readVersion found = .ok (read, issues) ∧ VersionReported found issues) := by
  match found with
  | none => exact .inr ⟨by rintro _ ⟨⟩, _, _, rfl, .missing⟩
  | some (.number (.integer (.ofNat n))) =>
    by_cases newer : version < n
    · refine .inl ⟨n, rfl, newer, ?_⟩
      simp [readVersion, newer]
    · refine .inr ⟨?_, n, [], ?_, .unsigned n⟩
      · rintro _ ⟨⟩
        exact Nat.le_of_not_lt newer
      · simp [readVersion, newer]
  | some (.number (.integer (.negSucc n))) =>
    refine .inr ⟨by rintro _ ⟨⟩, _, _, if_pos (Int.negSucc_lt_zero n), .other ?_⟩
    rintro _ ⟨⟩
  | some .null | some (.boolean _) | some (.number (.float _)) | some (.string _)
  | some (.array _) | some (.object _) =>
    exact .inr ⟨by rintro _ ⟨⟩, _, _, rfl, .other (by rintro _ ⟨⟩)⟩

/-! ## Documents -/

/-- What the section of a stage comes to. -/
def stageReading (members : List (String × Value)) (stage : Stage) : Reading :=
  readSection stage (members.lookup (Section.shaders stage).name)

/-- An object is turned away for its version, or it is read section by section. -/
theorem ofValue_cases (members : List (String × Value)) :
    (∃ newer : Nat, members.lookup Section.version.name = some (.number (.integer newer)) ∧
      version < newer ∧ ofValue (.object members) = .error (.unsupportedVersion newer)) ∨
    ((∀ n : Nat, members.lookup Section.version.name = some (.number (.integer n)) →
        n ≤ version) ∧
      ∃ contents ofVersion, ofValue (.object members) = .ok contents ∧
        VersionReported (members.lookup Section.version.name) ofVersion ∧
        contents.issues = ofVersion ++ (stageReading members .vertex).issues ++
          (stageReading members .pixel).issues ∧
        ∀ stage, contents.entries.get stage = (stageReading members stage).entries) := by
  obtain ⟨newer, found, above, turned⟩ | ⟨known, number, issues, accepted, reported⟩ :=
    readVersion_cases (members.lookup Section.version.name)
  · exact .inl ⟨newer, found, above, by rw [ofValue, turned]; rfl⟩
  · exact .inr ⟨known, _, issues, by rw [ofValue, accepted]; rfl, reported, rfl,
      fun stage => by cases stage <;> rfl⟩

theorem ordered_of_canonical {written : Value} {members : List (String × Value)}
    (same : written.canonical = .object members) : Ordered members := by
  obtain ⟨_, -, rfl⟩ := canonical_eq_object same
  exact sortMembers_ordered _

/-- A section of a text lists its keys in order. -/
theorem ordered_of_parse {text : String} {members inner : List (String × Value)} {key : String}
    (parsed : Value.parse text = .ok (.object members))
    (found : members.lookup key = some (.object inner)) : Ordered inner := by
  obtain ⟨written, shown⟩ := canonical_of_parse parsed
  obtain ⟨_, -, rfl⟩ := canonical_eq_object shown.symm
  obtain ⟨inside, same⟩ := canonical_of_lookup found
  exact ordered_of_canonical same.symm

theorem Listed.nodup {entries : List (Fingerprint × Settings)} (listed : Listed entries) :
    (entries.map Prod.fst).Nodup := by
  refine List.pairwise_map.mpr (listed.imp fun {a b} below same => ?_)
  rw [same] at below
  exact Std.lt_irrefl below

theorem decode_of_parse {text : String} {value : Value} (parsed : Value.parse text = .ok value) :
    decode text = ofValue value := by
  rw [decode, parsed]

theorem ofValue_nonobject {value : Value} (nonobject : ∀ members, value ≠ .object members) :
    ofValue value = .error .notAnObject := by
  cases value with
  | object members => exact absurd rfl (nonobject members)
  | null | boolean | number | string | array => rfl

theorem accounted_of_decode {text : String} {members : List (String × Value)}
    {contents : Contents} (parsed : Value.parse text = .ok (.object members))
    (decoded : decode text = .ok contents) : Accounted members contents := by
  have accepted := (decode_of_parse parsed).symm.trans decoded
  obtain ⟨_, _, _, turned⟩ | ⟨_, found, ofVersion, read, version, issues, entries⟩ :=
    ofValue_cases members
  · cases turned.symm.trans accepted
  obtain rfl : found = contents := Except.ok.inj (read.symm.trans accepted)
  have sections (stage : Stage) : SectionReported stage
      (members.lookup (Section.shaders stage).name) (stageReading members stage) :=
    section_reported stage fun inner => ordered_of_parse parsed
  refine ⟨⟨ofVersion, fun stage => (stageReading members stage).issues, issues, version,
    fun stage => ?_⟩, fun stage => (decode_listed decoded stage).nodup, ?_⟩
  · rw [entries stage]
    exact sections stage
  · have vertex : found.entries.vertex = _ := entries .vertex
    have pixel : found.entries.pixel = _ := entries .pixel
    rw [Contents.size, issues, vertex, pixel, ← (sections .vertex).length,
      ← (sections .pixel).length, keyedIssues_append, keyedIssues_append, version.keyedIssues]
    omega

/-- What a document decodes to: a rejection of its root or of its version, or contents. -/
theorem decode_cases {text : String} {value : Value} (parsed : Value.parse text = .ok value) :
    ((∀ members, value ≠ .object members) ∧ decode text = .error .notAnObject) ∨
    (∃ members, value = .object members ∧
      ((∃ newer : Nat, members.lookup Section.version.name = some (.number (.integer newer)) ∧
        version < newer ∧ newer < UInt64.size ∧
        decode text = .error (.unsupportedVersion newer)) ∨
      ((∀ n : Nat, members.lookup Section.version.name = some (.number (.integer n)) →
        n ≤ version) ∧ ∃ contents, decode text = .ok contents))) := by
  rw [decode_of_parse parsed]
  by_cases object : ∃ members, value = .object members
  case neg =>
    have nonobject : ∀ members, value ≠ .object members := fun members same =>
      object ⟨members, same⟩
    exact .inl ⟨nonobject, ofValue_nonobject nonobject⟩
  case pos =>
    obtain ⟨members, rfl⟩ := object
    obtain ⟨newer, found, above, turned⟩ | ⟨known, contents, _, accepted, _⟩ :=
      ofValue_cases members
    · have fits : newer < UInt64.size := Int.ofNat_lt.mp (fits_of_parse parsed found).2
      exact .inr ⟨members, rfl, .inl ⟨newer, found, above, fits, turned⟩⟩
    · exact .inr ⟨members, rfl, .inr ⟨known, contents, accepted⟩⟩

theorem decode_notAnObject_iff {text : String} {value : Value}
    (parsed : Value.parse text = .ok value) :
    decode text = .error .notAnObject ↔ ∀ members, value ≠ .object members := by
  obtain ⟨nonobject, turned⟩ | ⟨members, rfl, ⟨_, _, _, _, done⟩ | ⟨_, _, done⟩⟩ :=
    decode_cases parsed
  · exact iff_of_true turned nonobject
  all_goals exact iff_of_false (by rw [done]; rintro ⟨⟩) fun nonobject => nonobject members rfl

theorem decode_unsupportedVersion_iff {text : String} {value : Value}
    (parsed : Value.parse text = .ok value) (newer : Nat) :
    decode text = .error (.unsupportedVersion newer) ↔
      ∃ members, value = .object members ∧
        members.lookup Section.version.name = some (.number (.integer newer)) ∧
        version < newer ∧ newer < UInt64.size := by
  constructor
  · intro turned
    obtain ⟨_, done⟩ | ⟨members, same, ⟨_, found, above, fits, done⟩ | ⟨_, _, done⟩⟩ :=
      decode_cases parsed
    · cases done.symm.trans turned
    · cases done.symm.trans turned
      exact ⟨members, same, found, above, fits⟩
    · cases done.symm.trans turned
  · rintro ⟨members, rfl, named, above, -⟩
    obtain ⟨nonobject, _⟩ | ⟨_, ⟨⟩, ⟨_, found, _, _, done⟩ | ⟨known, _⟩⟩ := decode_cases parsed
    · exact absurd rfl (nonobject members)
    · cases found.symm.trans named
      exact done
    · exact absurd (known newer named) (Nat.not_le_of_lt above)

/-- Decoding fails for a root that is no object and for a version that is too new, and for nothing
else. Otherwise every member of every section is accounted for. -/
theorem parts_accounted {text : String} {value : Value} (parsed : Value.parse text = .ok value) :
    (decode text = .error .notAnObject ↔ ∀ members, value ≠ .object members) ∧
    (∀ newer : Nat, decode text = .error (.unsupportedVersion newer) ↔
      ∃ members, value = .object members ∧
        members.lookup Section.version.name = some (.number (.integer newer)) ∧
        1 < newer ∧ newer < UInt64.size) ∧
    (decode text = .error .notAnObject ∨
      (∃ newer, decode text = .error (.unsupportedVersion newer)) ∨
      ∃ contents, decode text = .ok contents) ∧
    ∀ contents, decode text = .ok contents →
      ∃ members, value = .object members ∧ Accounted members contents := by
  refine ⟨decode_notAnObject_iff parsed, decode_unsupportedVersion_iff parsed, ?_,
    fun contents decoded => ?_⟩
  · obtain ⟨_, done⟩ | ⟨_, _, ⟨newer, _, _, _, done⟩ | ⟨_, done⟩⟩ := decode_cases parsed
    · exact .inl done
    · exact .inr (.inl ⟨newer, done⟩)
    · exact .inr (.inr done)
  · by_cases object : ∃ members, value = .object members
    case pos =>
      obtain ⟨members, rfl⟩ := object
      exact ⟨members, rfl, accounted_of_decode parsed decoded⟩
    case neg =>
      have turned := (decode_notAnObject_iff parsed).mpr fun members same =>
        object ⟨members, same⟩
      cases turned.symm.trans decoded

/-- A section with a padded key and an unusable value, beside two parts that cannot be read. -/
theorem mixed_parts_accounted :
    let value : Value := .object [
      (Section.version.name, .string "1"),
      ((Section.shaders .vertex).name,
        .object [("7", .object []), ("07", .object []), ("8", .null)]),
      ((Section.shaders .pixel).name, .array [])]
    Value.parse value.pretty = .ok value.canonical ∧
      ∃ contents, decode value.pretty = .ok contents ∧
        contents.size + keyedIssues contents.issues = 3 := by
  intro value
  have plain : value.Plain greatestDepth := by
    refine .object fun member mem => ?_
    simp only [List.mem_cons, List.not_mem_nil, or_false] at mem
    obtain rfl | rfl | rfl := mem
    · exact .string _ _
    · refine .object fun member mem => ?_
      simp only [List.mem_cons, List.not_mem_nil, or_false] at mem
      obtain rfl | rfl | rfl := mem
      · exact .object (by rintro _ ⟨⟩)
      · exact .object (by rintro _ ⟨⟩)
      · exact .null _
    · exact .array (by rintro _ ⟨⟩)
  have parsed := parse_pretty plain
  obtain ⟨nonobject, newer, settled, accounted⟩ := parts_accounted parsed
  refine ⟨parsed, ?_⟩
  obtain turned | ⟨found, turned⟩ | ⟨contents, decoded⟩ := settled
  · exact absurd (by rw [canonical]) (nonobject.mp turned _)
  · obtain ⟨members, shown, named, -⟩ := (newer found).mp turned
    rw [canonical] at shown
    cases shown
    rw [lookup_sortMembers] at named
    cases named
  · obtain ⟨members, shown, account⟩ := accounted contents decoded
    refine ⟨contents, decoded, ?_⟩
    rw [canonical] at shown
    cases shown
    rw [account.keys, lookup_sortMembers, lookup_sortMembers]
    exact (sortMembers_perm (by decide)).length_eq

end ShaderIdentity.Document
