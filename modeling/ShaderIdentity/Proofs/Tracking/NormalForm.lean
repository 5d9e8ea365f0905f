import Mathlib.Data.List.Sort
import ShaderIdentity.Proofs.Profile.Accounting
import ShaderIdentity.Proofs.Tracking.Loading

/-! A document that was edited by hand is written back in one form, which holds the same entries and
stays as it is from then on. -/
namespace ShaderIdentity

/-- The profile with the settings instead of its own. What was learnt at run time is forgotten. -/
def Settings.applyTo (settings : Settings) (profile : Profile) : Profile :=
  { profile with
    activated := settings.activate
    flags := settings.flags
    watched := settings.watched
    bindsWorldMatrix := false }

namespace Registry

/-- Applies an entry to the profile of its fingerprint, which is made if there is none. -/
def applyEntry (stage : Stage) (registry : Registry) (entry : Fingerprint × Settings) : Registry :=
  (registry.ensure stage entry.1).modify stage entry.1 entry.2.applyTo

/-- Applies all entries of a document, one after the other. -/
def applyEntries (registry : Registry) (contents : Document.Contents) : Registry :=
  Stage.all.foldl (fun registry stage =>
    (contents.entries.get stage).foldl (applyEntry stage) registry) registry

/-- Nothing is left of the profile that was there. -/
theorem insertIfNew_modify (profiles : ProfileMap) (fingerprint : Fingerprint)
    (settings : Settings) :
    (profiles.insertIfNew fingerprint .initial).modify fingerprint settings.applyTo =
      profiles.insert fingerprint settings.toProfile := by
  refine Std.ExtTreeMap.ext_getElem? fun other => ?_
  rw [Std.ExtTreeMap.getElem?_modify, Std.ExtTreeMap.getElem?_insert]
  split
  · rename_i same
    obtain rfl := Std.LawfulEqOrd.eq_of_compare same
    rw [Std.ExtTreeMap.getElem?_insertIfNew]
    by_cases old : fingerprint ∈ profiles
    · rw [if_neg fun new => new.2 old, Std.ExtTreeMap.getElem?_eq_some_getElem old]
      rfl
    · rw [if_pos ⟨same, old⟩]
      rfl
  · rename_i another
    rw [Std.ExtTreeMap.getElem?_insertIfNew, if_neg (fun new => another new.1)]

theorem profiles_applyEntry (stage : Stage) (registry : Registry)
    (entry : Fingerprint × Settings) :
    (registry.applyEntry stage entry).profiles =
      registry.profiles.update stage (·.insert entry.1 entry.2.toProfile) := by
  refine PerStage.ext_get fun other => ?_
  simp only [applyEntry, ensure, modify, PerStage.get_update]
  split
  · rw [insertIfNew_modify]
  · rfl

/-- Applying entries to profiles puts the entries into them. -/
theorem profiles_applyEntries (registry : Registry) (contents : Document.Contents) :
    (registry.applyEntries contents).profiles = Document.merge registry.profiles contents := by
  have run (stage other : Stage) (entries : List (Fingerprint × Settings)) (registry : Registry) :
      (entries.foldl (applyEntry stage) registry).profiles.get other =
        if other = stage then
          entries.foldl (fun merged entry => merged.insert entry.1 entry.2.toProfile)
            (registry.profiles.get other)
        else registry.profiles.get other := by
    induction entries generalizing registry with
    | nil => simp
    | cons entry entries ih =>
      rw [List.foldl_cons, ih, profiles_applyEntry, PerStage.get_update]
      split <;> rfl
  refine PerStage.ext_get fun stage => ?_
  simp only [applyEntries, Stage.all, List.foldl_cons, List.foldl_nil, run, Document.merge,
    PerStage.get_ofStage]
  cases stage <;> rfl

end Registry

namespace Document

open Json Json.Value

/-- Lists of entries in the order of their keys are the same when they hold the same entries. -/
theorem Listed.ext {a b : List (Fingerprint × Settings)} (listedA : Listed a) (listedB : Listed b)
    (same : ∀ entry, entry ∈ a ↔ entry ∈ b) : a = b := by
  let before (x y : Fingerprint × Settings) : Prop := x.1.text < y.1.text
  have : Std.Antisymm before :=
    ⟨fun x y xy yx => absurd (String.lt_trans xy yx) (String.lt_irrefl _)⟩
  have : Std.Irrefl before := ⟨fun x => String.lt_irrefl _⟩
  exact List.Pairwise.eq_of_mem_iff (r := before) listedA listedB same

/-- Entries that are put where nothing was are found again, and nothing else is. -/
theorem find_merged {contents : Contents} {stage : Stage}
    (listed : Listed (contents.entries.get stage)) (fingerprint : Fingerprint)
    (settings : Settings) :
    (((merge (.both ∅) contents).get stage)[fingerprint]?).map Settings.ofProfile =
        some settings ↔
      (fingerprint, settings) ∈ contents.entries.get stage := by
  rw [merged_get]
  constructor
  · intro found
    by_cases known : ∃ other, (fingerprint, other) ∈ contents.entries.get stage
    · obtain ⟨other, mem⟩ := known
      rw [putEntries_of_mem listed mem, Option.map_some, Settings.ofProfile_toProfile] at found
      cases found
      exact mem
    · rw [putEntries_of_not_mem fun other mem => known ⟨other, mem⟩, PerStage.get_both,
        Std.ExtTreeMap.getElem?_empty] at found
      cases found
  · intro mem
    rw [putEntries_of_mem listed mem, Option.map_some, Settings.ofProfile_toProfile]

/-- What is listed for entries that were read is just these entries, in the same order. -/
theorem entriesOf_merged {text : String} {contents : Contents}
    (decoded : decode text = .ok contents) (stage : Stage) :
    entriesOf ((merge (.both ∅) contents).get stage) = contents.entries.get stage := by
  have listed := decode_listed decoded stage
  have written := decode_listed (decode_encode (merge (.both ∅) contents)) stage
  rw [PerStage.get_ofStage] at written
  refine written.ext listed fun (fingerprint, settings) => ?_
  rw [mem_entriesOf, find_merged listed]

/-- The document is read into an empty registry and written from there. -/
def normalize (bytecodeLimit : Nat) (text : String) : Except Rejection String := do
  let contents ← decode text
  return encode ((Registry.empty bytecodeLimit).applyEntries contents).profiles

section
variable (bytecodeLimit : Nat) {text : String} {contents : Contents}

theorem normalize_eq (decoded : decode text = .ok contents) :
    normalize bytecodeLimit text = .ok (encode (merge (.both ∅) contents)) := by
  rw [normalize, decoded, Json.ok_bind, Registry.profiles_applyEntries]
  rfl

/-- What is written for a document is read without an issue, and the same entries are read. -/
theorem decode_normalized (decoded : decode text = .ok contents) :
    decode (encode (merge (.both ∅) contents)) = .ok ⟨version, contents.entries, []⟩ := by
  have same : PerStage.ofStage (fun stage => entriesOf ((merge (.both ∅) contents).get stage)) =
      contents.entries :=
    PerStage.ext_get fun stage => by rw [PerStage.get_ofStage, entriesOf_merged decoded]
  rw [decode_encode, same]

/-- A document that is read can be normalized. The normal form is a document of the current version
with the same entries and no issues, and it is its own normal form. -/
theorem normal_form (decoded : decode text = .ok contents) :
    ∃ written, normalize bytecodeLimit text = .ok written ∧
      decode written = .ok ⟨1, contents.entries, []⟩ ∧
      normalize bytecodeLimit written = .ok written := by
  have again := decode_normalized decoded
  -- Merging uses nothing but the entries of what was read.
  have settled := normalize_eq bytecodeLimit again
  exact ⟨_, normalize_eq bytecodeLimit decoded, again, settled⟩

end

/-- A padded key, a register that is listed twice, flags without a name, a member that no field is
named by, and keys in the order of their numbers, which is not that of their texts. -/
theorem edited_document_normalized :
    let registers : Value :=
      .array [.number (.integer 9), .number (.integer 1), .number (.integer 9)]
    let value : Value := .object [
      ((Section.shaders .vertex).name, .object [
        ("7", .object [("Note", .null), ("ConstantVs", registers)]),
        ("07", .null),
        ("12", .array [.boolean false, .number (.integer 4294967295)])]),
      (Section.version.name, .number (.integer 0))]
    let entries : PerStage (List (Fingerprint × Settings)) := ⟨[
      (⟨12⟩, ⟨false, ⟨4294967295⟩, .both ∅⟩),
      (⟨7⟩, ⟨true, .empty, ⟨.ofList ([1, 9] : List UInt32), ∅⟩⟩)], []⟩
    ∃ written, normalize 64 value.pretty = .ok written ∧
      decode written = .ok ⟨1, entries, []⟩ ∧ normalize 64 written = .ok written := by
  intro registers value entries
  have plain : value.Plain greatestDepth := by
    have word (word : UInt32) (depth : Nat) : (Value.number (.integer word.toNat)).Plain depth :=
      .integer depth (Settings.fits64_word word)
    refine .object ?_
    simp only [List.forall_mem_cons]
    refine ⟨.object ?_, word 0 _, nofun⟩
    simp only [List.forall_mem_cons]
    refine ⟨.object ?_, .null _, .array ?_, nofun⟩
    · simp only [List.forall_mem_cons]
      refine ⟨.null _, .array ?_, nofun⟩
      simp only [List.forall_mem_cons]
      exact ⟨word 9 _, word 1 _, word 9 _, nofun⟩
    · simp only [List.forall_mem_cons]
      exact ⟨.boolean _ _, word 4294967295 _, nofun⟩
  have collapsed : (.ofList ([1, 9] : List UInt32) : RegisterSet) =
      .ofList ([9, 1, 9] : List UInt32) := by decide
  have decoded : decode value.pretty =
      .ok ⟨0, entries, [⟨.shaders .vertex, some "07", .badKey ⟨"07"⟩⟩]⟩ := by
    rw [decode_of_parse (parse_pretty plain)]
    simp only [value, registers, entries, collapsed]
    rfl
  exact normal_form 64 decoded

end Document
end ShaderIdentity
