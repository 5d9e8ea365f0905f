import ShaderIdentity.Proofs.Profile.DocumentLaws
import ShaderIdentity.Tracking.Archive

/-! What loading does to each profile. The entries of a document replace the profiles they name,
all others stay, and then every profile watches what its listing mentions. -/
namespace ShaderIdentity

namespace Profile

variable (profile : Profile) (stage : Stage) (registers : RegisterSet)

theorem mem_watchAlso (shown : Stage) (register : UInt32) :
    register ∈ (profile.watchAlso stage registers).watched.get shown ↔
      register ∈ profile.watched.get shown ∨ shown = stage ∧ register ∈ registers := by
  simp only [watchAlso, PerStage.get_update]
  split <;> simp [*, Std.ExtTreeSet.mem_union_iff]

theorem watchAlso_twice :
    (profile.watchAlso stage registers).watchAlso stage registers =
      profile.watchAlso stage registers := by
  have union_twice (set : RegisterSet) : set ∪ registers ∪ registers = set ∪ registers := by
    apply Std.ExtTreeSet.ext_mem
    intro register
    simp only [Std.ExtTreeSet.mem_union_iff, or_assoc, or_self]
  cases stage <;> simp [watchAlso, PerStage.update, PerStage.set, PerStage.get, union_twice]

end Profile

/-! ## Entries put into the profiles -/

namespace Document

variable {entries : List (Fingerprint × Settings)} {fingerprint : Fingerprint}

theorem merged_get (profiles : PerStage ProfileMap) (contents : Contents) (stage : Stage) :
    (merge profiles contents).get stage =
      (contents.entries.get stage).foldl
        (fun merged entry => merged.insert entry.1 entry.2.toProfile) (profiles.get stage) :=
  PerStage.get_ofStage _ stage

theorem putEntries_of_not_mem (absent : ∀ settings, (fingerprint, settings) ∉ entries)
    (profiles : ProfileMap) :
    (entries.foldl (fun merged entry => merged.insert entry.1 entry.2.toProfile)
      profiles)[fingerprint]? = profiles[fingerprint]? := by
  induction entries generalizing profiles with
  | nil => rfl
  | cons entry rest ih =>
    have other : compare entry.1 fingerprint ≠ .eq := by
      intro same
      rw [← Std.LawfulEqOrd.eq_of_compare same] at absent
      exact absent entry.2 List.mem_cons_self
    rw [List.foldl_cons, ih fun settings mem => absent settings (List.mem_cons_of_mem _ mem),
      Std.ExtTreeMap.getElem?_insert, if_neg other]

theorem putEntries_of_mem (listed : Listed entries) {settings : Settings}
    (mem : (fingerprint, settings) ∈ entries) (profiles : ProfileMap) :
    (entries.foldl (fun merged entry => merged.insert entry.1 entry.2.toProfile)
      profiles)[fingerprint]? = some settings.toProfile := by
  induction entries generalizing profiles with
  | nil => cases mem
  | cons entry rest ih =>
    obtain ⟨below, others⟩ := List.pairwise_cons.mp listed
    rw [List.foldl_cons]
    rcases List.mem_cons.mp mem with rfl | later
    · have absent : ∀ settings, (fingerprint, settings) ∉ rest :=
        fun other again => String.lt_irrefl _ (below (fingerprint, other) again)
      rw [putEntries_of_not_mem absent, Std.ExtTreeMap.getElem?_insert_self]
    · exact ih others later _

end Document

namespace Archive

/-- The text of the listing that is looked at after loading: none when listings are not looked at
or this one cannot be read. -/
def listing? (archive : Archive) (files : FileTree) (stage : Stage) (fingerprint : Fingerprint) :
    Option String := do
  let directory ← archive.listings
  (Listing.text? files directory stage fingerprint).toOption

variable {archive : Archive} {directory : String}

theorem listing?_none (off : archive.listings = none) (files : FileTree) (stage : Stage)
    (fingerprint : Fingerprint) : archive.listing? files stage fingerprint = none := by
  rw [listing?, off]
  rfl

theorem listing?_some (on : archive.listings = some directory) (files : FileTree) (stage : Stage)
    (fingerprint : Fingerprint) : archive.listing? files stage fingerprint =
      (Listing.text? files directory stage fingerprint).toOption := by
  rw [listing?, on, Option.bind_eq_bind, Option.bind_some]

/-- The profile, which also watches what its listing mentions. -/
def withListing (archive : Archive) (files : FileTree) (stage : Stage) (fingerprint : Fingerprint)
    (profile : Profile) : Profile :=
  match archive.listing? files stage fingerprint with
  | some text => profile.watchAlso stage (Listing.registers stage text)
  | none => profile

/-- The number of profiles whose listings are read. -/
def listingsRead (archive : Archive) (files : FileTree) (registry : Registry) : Nat :=
  (Stage.all.flatMap fun stage =>
    (registry.profiles.get stage).keys.map (archive.listing? files stage)).countP (·.isSome)

/-! ## What a load leaves of a profile -/

/-- On its own stage the profile watches what its listing mentions besides these registers, and on
the other one just these. -/
def WatchesAlso (archive : Archive) (files : FileTree) (stage : Stage) (fingerprint : Fingerprint)
    (registers : PerStage RegisterSet) (after : Profile) : Prop :=
  ∀ shown register, register ∈ after.watched.get shown ↔
    register ∈ registers.get shown ∨ shown = stage ∧
      ∃ text, archive.listing? files stage fingerprint = some text ∧
        register ∈ Listing.registers stage text

/-- The profile is as its entry says, whatever it was before, and has no mark. -/
structure Overwritten (archive : Archive) (files : FileTree) (stage : Stage)
    (fingerprint : Fingerprint) (settings : Settings) (after : Profile) : Prop where
  activated : after.activated = settings.activate
  flags : after.flags.bits = settings.flags.bits
  watched : archive.WatchesAlso files stage fingerprint settings.watched after
  bindsWorldMatrix : after.bindsWorldMatrix = false

/-- The profile is as it was before, but for what its listing mentions. -/
structure Enlarged (archive : Archive) (files : FileTree) (stage : Stage)
    (fingerprint : Fingerprint) (before after : Profile) : Prop where
  activated : after.activated = before.activated
  flags : after.flags.bits = before.flags.bits
  watched : archive.WatchesAlso files stage fingerprint before.watched after
  bindsWorldMatrix : after.bindsWorldMatrix = before.bindsWorldMatrix

/-- What loading a document leaves. -/
structure Loaded (archive : Archive) (files : FileTree) (before : Registry)
    (contents : Document.Contents) (after : Registry) : Prop where
  entry : ∀ stage fingerprint settings, (fingerprint, settings) ∈ contents.entries.get stage →
    ∃ profile, after.profile? stage fingerprint = some profile ∧
      archive.Overwritten files stage fingerprint settings profile
  other : ∀ stage fingerprint, (∀ settings, (fingerprint, settings) ∉ contents.entries.get stage) →
    Option.Rel (archive.Enlarged files stage fingerprint) (before.profile? stage fingerprint)
      (after.profile? stage fingerprint)
  handles : after.handles = before.handles
  limit : after.bytecodeLimit = before.bytecodeLimit

theorem enlarged_withListing (archive : Archive) (files : FileTree) (stage : Stage)
    (fingerprint : Fingerprint) (profile : Profile) :
    archive.Enlarged files stage fingerprint profile
      (archive.withListing files stage fingerprint profile) := by
  unfold withListing
  cases read : archive.listing? files stage fingerprint with
  | none =>
    refine ⟨rfl, rfl, fun shown register => ?_, rfl⟩
    simp [read]
  | some text =>
    refine ⟨rfl, rfl, fun shown register => ?_, rfl⟩
    simp [read, profile.mem_watchAlso]

theorem overwritten_withListing (archive : Archive) (files : FileTree) (stage : Stage)
    (fingerprint : Fingerprint) (settings : Settings) :
    archive.Overwritten files stage fingerprint settings
      (archive.withListing files stage fingerprint settings.toProfile) := by
  have enlarged := archive.enlarged_withListing files stage fingerprint settings.toProfile
  exact ⟨enlarged.activated, enlarged.flags, enlarged.watched, enlarged.bindsWorldMatrix⟩

/-! ## Entries, then listings -/

/-- The registry with the entries in it, before listings are looked at. -/
def merged (registry : Registry) (contents : Document.Contents) : Registry :=
  { registry with profiles := Document.merge registry.profiles contents }

/-- The state and the count of a load that found a document. -/
def scanned (archive : Archive) (files : FileTree) (registry : Registry) : Outcome Registry Nat :=
  match archive.listings with
  | some directory => registry.scan files directory
  | none => ⟨0, registry, []⟩

theorem withListing_none (off : archive.listings = none) (files : FileTree) (stage : Stage)
    (fingerprint : Fingerprint) (profile : Profile) :
    archive.withListing files stage fingerprint profile = profile := by
  simp only [withListing, listing?_none off]

theorem withListing_some (on : archive.listings = some directory) (files : FileTree)
    (stage : Stage) (fingerprint : Fingerprint) (profile : Profile) :
    archive.withListing files stage fingerprint profile =
      Listing.extend files directory stage fingerprint profile := by
  unfold withListing
  simp only [listing?_some on]
  unfold Listing.extend
  generalize Listing.text? files directory stage fingerprint = read
  cases read with
  | error => rfl
  | ok => rfl

theorem scanned_profile? (archive : Archive) (files : FileTree) (registry : Registry)
    (stage : Stage) (fingerprint : Fingerprint) :
    (archive.scanned files registry).state.profile? stage fingerprint =
      (registry.profile? stage fingerprint).map
        (archive.withListing files stage fingerprint) := by
  cases shown : archive.listings with
  | none =>
    have same : archive.withListing files stage fingerprint = id :=
      funext (withListing_none shown files stage fingerprint)
    simp only [scanned, shown, same, Option.map_id, id]
  | some directory =>
    have same : archive.withListing files stage fingerprint =
        Listing.extend files directory stage fingerprint :=
      funext (withListing_some shown files stage fingerprint)
    simp only [scanned, shown, same, Registry.scan, Registry.profile?, PerStage.get_ofStage,
      Std.ExtTreeMap.getElem?_map]

theorem scanned_answer (archive : Archive) (files : FileTree) (registry : Registry) :
    (archive.scanned files registry).answer =
      archive.listingsRead files (archive.scanned files registry).state := by
  cases shown : archive.listings with
  | none =>
    have none_read : archive.listingsRead files registry = 0 := by
      rw [listingsRead, List.countP_eq_zero]
      intro listing mem
      obtain ⟨stage, -, mem⟩ := List.mem_flatMap.mp mem
      obtain ⟨fingerprint, -, rfl⟩ := List.mem_map.mp mem
      rw [listing?_none shown]
      exact Bool.false_ne_true
    simp only [scanned, shown, none_read]
  | some directory =>
    have read : ∀ stage fingerprint, (archive.listing? files stage fingerprint).isSome =
        (Listing.text? files directory stage fingerprint).isOk := by
      intro stage fingerprint
      rw [listing?_some shown]
      cases Listing.text? files directory stage fingerprint <;> rfl
    simp only [scanned, shown, listingsRead, Registry.scan, read, PerStage.get_ofStage,
      Std.ExtTreeMap.keys_map, List.countP_flatMap, Function.comp_def, List.countP_map]

theorem scanned_handles (archive : Archive) (files : FileTree) (registry : Registry) :
    (archive.scanned files registry).state.handles = registry.handles ∧
      (archive.scanned files registry).state.bytecodeLimit = registry.bytecodeLimit := by
  unfold scanned
  split <;> exact ⟨rfl, rfl⟩

theorem scanned_reports (archive : Archive) (files : FileTree) (registry : Registry) :
    ∀ event ∈ (archive.scanned files registry).events, ∃ err, event = .listingUnreadable err := by
  intro event mem
  unfold scanned at mem
  split at mem
  case h_1 directory _ =>
    obtain ⟨read, -, unreadable⟩ := List.mem_filterMap.mp mem
    split at unreadable
    · cases unreadable
    · cases unreadable
    · cases unreadable
      exact ⟨_, rfl⟩
  case h_2 => cases mem

/-! ## The four ways a load ends -/

section
variable (archive : Archive) {files : FileTree} (registry : Registry)

theorem load_missing (absent : files.readText archive.path = .error .notFound) :
    archive.load files registry = ⟨.ok .missing, registry, [.documentMissing]⟩ := by
  rw [load, absent]

theorem load_unreadable {err : FileError} (unreadable : files.readText archive.path = .error err)
    (present : err ≠ .notFound) :
    archive.load files registry = ⟨.error (.file err), registry, []⟩ := by
  rw [load, unreadable]
  cases err <;> first | rfl | exact absurd rfl present

theorem load_rejected {text : String} {rejection : Document.Rejection}
    (read : files.readText archive.path = .ok text)
    (rejected : Document.decode text = .error rejection) :
    archive.load files registry = ⟨.error (.document rejection), registry, []⟩ := by
  rw [load, read]
  simp only [rejected]

theorem load_decoded {text : String} {contents : Document.Contents}
    (read : files.readText archive.path = .ok text)
    (decoded : Document.decode text = .ok contents) :
    let scanned := archive.scanned files (merged registry contents)
    (archive.load files registry).state = scanned.state ∧
      (archive.load files registry).answer =
        .ok (.loaded contents.size contents.issues.length scanned.answer) := by
  rw [load, read]
  simp only [decoded]
  exact ⟨rfl, rfl⟩

theorem load_decoded_events {text : String} {contents : Document.Contents}
    (read : files.readText archive.path = .ok text)
    (decoded : Document.decode text = .ok contents) :
    let scanned := archive.scanned files (merged registry contents)
    (archive.load files registry).events =
      contents.issues.map .entrySkipped ++ scanned.events ++
        [.loaded contents.size contents.issues.length scanned.answer] := by
  rw [load, read]
  simp only [decoded]
  rfl

theorem load_decoded_or_kept :
    (∃ text contents, files.readText archive.path = .ok text ∧
      Document.decode text = .ok contents) ∨
    (archive.load files registry).state = registry := by
  cases read : files.readText archive.path with
  | error fault =>
    by_cases absent : fault = .notFound
    · subst absent
      rw [archive.load_missing registry read]
      exact .inr rfl
    · rw [archive.load_unreadable registry read absent]
      exact .inr rfl
  | ok text =>
    cases decoded : Document.decode text with
    | error rejection =>
      rw [archive.load_rejected registry read decoded]
      exact .inr rfl
    | ok contents => exact .inl ⟨text, contents, rfl, decoded⟩

theorem load_state_of_error {err : ArchiveError}
    (refused : (archive.load files registry).answer = .error err) :
    (archive.load files registry).state = registry := by
  rcases archive.load_decoded_or_kept registry with ⟨text, contents, read, decoded⟩ | kept
  · rw [(archive.load_decoded registry read decoded).2] at refused
    cases refused
  · exact kept

theorem load_entry {text : String} {contents : Document.Contents}
    (read : files.readText archive.path = .ok text)
    (decoded : Document.decode text = .ok contents) {stage : Stage} {fingerprint : Fingerprint}
    {settings : Settings} (mem : (fingerprint, settings) ∈ contents.entries.get stage) :
    (archive.load files registry).state.profile? stage fingerprint =
      some (archive.withListing files stage fingerprint settings.toProfile) := by
  have listed := Document.decode_listed decoded stage
  rw [(archive.load_decoded registry read decoded).1, scanned_profile?, Registry.profile?, merged,
    Document.merged_get, Document.putEntries_of_mem listed mem, Option.map_some]

theorem load_other {text : String} {contents : Document.Contents}
    (read : files.readText archive.path = .ok text)
    (decoded : Document.decode text = .ok contents) {stage : Stage} {fingerprint : Fingerprint}
    (absent : ∀ settings, (fingerprint, settings) ∉ contents.entries.get stage) :
    (archive.load files registry).state.profile? stage fingerprint =
      (registry.profile? stage fingerprint).map
        (archive.withListing files stage fingerprint) := by
  rw [(archive.load_decoded registry read decoded).1, scanned_profile?, Registry.profile?, merged,
    Document.merged_get, Document.putEntries_of_not_mem absent]
  rfl

theorem loaded_of_decoded {text : String} {contents : Document.Contents}
    (read : files.readText archive.path = .ok text)
    (decoded : Document.decode text = .ok contents) :
    Loaded archive files registry contents (archive.load files registry).state := by
  have handles := archive.scanned_handles files (merged registry contents)
  constructor
  case entry =>
    intro stage fingerprint settings mem
    exact ⟨_, archive.load_entry registry read decoded mem,
      archive.overwritten_withListing files stage fingerprint settings⟩
  case other =>
    intro stage fingerprint absent
    rw [archive.load_other registry read decoded absent]
    cases registry.profile? stage fingerprint with
    | none => exact .none
    | some profile => exact .some (archive.enlarged_withListing files stage fingerprint profile)
  case handles =>
    rw [(archive.load_decoded registry read decoded).1]
    exact handles.1
  case limit =>
    rw [(archive.load_decoded registry read decoded).1]
    exact handles.2

/-- However a load ends, the handles stay as they are. -/
theorem load_handles :
    (archive.load files registry).state.handles = registry.handles ∧
      (archive.load files registry).state.bytecodeLimit = registry.bytecodeLimit := by
  rcases archive.load_decoded_or_kept registry with ⟨text, contents, read, decoded⟩ | kept
  · have spec := archive.loaded_of_decoded registry read decoded
    exact ⟨spec.handles, spec.limit⟩
  · rw [kept]
    exact ⟨rfl, rfl⟩

/-- What is reported in the course of a load. -/
def Reports : Event → Prop
  | .documentMissing | .entrySkipped _ | .listingUnreadable _ | .loaded .. => True
  | _ => False

theorem load_reports : ∀ event ∈ (archive.load files registry).events, Reports event := by
  intro event mem
  cases read : files.readText archive.path with
  | error fault =>
    by_cases absent : fault = .notFound
    · subst absent
      rw [archive.load_missing registry read, List.mem_singleton] at mem
      subst mem
      trivial
    · rw [archive.load_unreadable registry read absent] at mem
      cases mem
  | ok text =>
    cases decoded : Document.decode text with
    | error rejection =>
      rw [archive.load_rejected registry read decoded] at mem
      cases mem
    | ok contents =>
      rw [archive.load_decoded_events registry read decoded] at mem
      simp only [List.mem_append, List.mem_map, List.mem_singleton] at mem
      obtain ((⟨issue, -, rfl⟩ | looked) | rfl) := mem
      · trivial
      · obtain ⟨err, rfl⟩ := scanned_reports _ _ _ event looked
        trivial
      · trivial

/-- Handles and the limit on bytecode have no part in a load. -/
theorem load_congr {other : Registry} (same : other.profiles = registry.profiles) :
    (archive.load files other).answer = (archive.load files registry).answer ∧
      (archive.load files other).state.profiles = (archive.load files registry).state.profiles ∧
      (archive.load files other).events = (archive.load files registry).events := by
  obtain ⟨profiles, handles, limit⟩ := registry
  obtain ⟨_, otherHandles, otherLimit⟩ := other
  subst same
  unfold load
  split
  · exact ⟨rfl, rfl, rfl⟩
  · exact ⟨rfl, rfl, rfl⟩
  · split
    · exact ⟨rfl, rfl, rfl⟩
    · cases archive.listings <;> exact ⟨rfl, rfl, rfl⟩

end

/-- A load depends on its document alone for whether it succeeds, never on a listing. Unless it
puts a document in, nothing changes and no listing is looked at. -/
theorem load_pointwise (archive : Archive) (files : FileTree) (registry : Registry) :
    let loaded := archive.load files registry
    (loaded.answer = .ok .missing ↔ files.readText archive.path = .error .notFound) ∧
    (∀ err, loaded.answer = .error err ↔
      (∃ fault, fault ≠ .notFound ∧ files.readText archive.path = .error fault ∧
        err = .file fault) ∨
      ∃ text rejection, files.readText archive.path = .ok text ∧
        Document.decode text = .error rejection ∧ err = .document rejection) ∧
    match loaded.answer with
    | .error _ | .ok .missing =>
      loaded.state = registry ∧ ∀ err, Event.listingUnreadable err ∉ loaded.events
    | .ok (.loaded entries skipped listings) => ∃ text contents,
      files.readText archive.path = .ok text ∧ Document.decode text = .ok contents ∧
      entries = contents.size ∧ skipped = contents.issues.length ∧
      listings = archive.listingsRead files loaded.state ∧
      Loaded archive files registry contents loaded.state := by
  intro loaded
  cases read : files.readText archive.path with
  | error fault =>
    by_cases absent : fault = .notFound
    · subst absent
      have outcome : loaded = _ := archive.load_missing registry read
      simp [outcome]
    · have outcome : loaded = _ := archive.load_unreadable registry read absent
      simp [outcome, absent, eq_comm]
  | ok text =>
    cases decoded : Document.decode text with
    | error rejection =>
      have outcome : loaded = _ := archive.load_rejected registry read decoded
      simp [outcome, decoded, eq_comm]
    | ok contents =>
      obtain ⟨state, answer⟩ := archive.load_decoded registry read decoded
      have counted := archive.scanned_answer files (merged registry contents)
      have answer : loaded.answer = _ := answer
      have spec : Loaded archive files registry contents loaded.state :=
        archive.loaded_of_decoded registry read decoded
      rw [← state] at counted
      simp only [answer]
      refine ⟨by simp, fun err => ?_, text, contents, rfl, decoded, rfl, rfl, counted, spec⟩
      simp [decoded]

end Archive

end ShaderIdentity
