import ShaderIdentity.Proofs.Profile.DocumentLaws
import ShaderIdentity.Tracking.Registry

/-! A document holds the settings of every profile, and nothing but those: they are read back from
it, and registries with the same settings have the same document. -/
namespace ShaderIdentity.Registry

open Json

theorem keys_ascending (profiles : ProfileMap) :
    profiles.keys.Pairwise fun a b => a.code < b.code := by
  refine profiles.ordered_keys.imp ?_
  intro a b before
  change compare a.code b.code = .lt at before
  exact Std.compare_eq_lt.mp before

/-- Members are written in the order of the fingerprints. They are listed, each once, in the order
of their texts, in which 10 comes before 9. -/
theorem document_round_trip :
    (∀ registry : Registry, ∃ (contents : Document.Contents)
        (written : Stage → List (String × Value)),
      Document.decode (Document.encode registry.profiles) = .ok contents ∧
      contents.version = 1 ∧ contents.issues = [] ∧
      (∀ stage,
        (contents.entries.get stage).Perm
          ((registry.profiles.get stage).toList.map fun (fingerprint, profile) =>
            (fingerprint, Settings.ofProfile profile)) ∧
        (contents.entries.get stage).Pairwise fun a b => a.1.text < b.1.text) ∧
      Value.read Value.greatestDepth (Document.encode registry.profiles).toList =
        .ok (.object [("Version", .number (.integer 1)),
          ("VertexShaders", .object (written .vertex)),
          ("PixelShaders", .object (written .pixel))], []) ∧
      ∀ stage, ∃ fingerprints : List Fingerprint,
        (written stage).map Prod.fst = fingerprints.map Fingerprint.text ∧
        fingerprints.Pairwise fun a b => a.code < b.code) ∧
    ∀ a b : Registry, Document.encode a.profiles = Document.encode b.profiles ↔
      ∀ stage fingerprint, (a.profile? stage fingerprint).map Settings.ofProfile =
        (b.profile? stage fingerprint).map Settings.ofProfile := by
  refine ⟨fun registry => ?_, fun a b => Document.encode_eq_iff⟩
  have read := Document.decode_encode registry.profiles
  have written (stage : Stage) : ∃ members, (Document.sectionValue (registry.profiles.get stage)) =
      .object members ∧ members.map Prod.fst =
        (registry.profiles.get stage).keys.map Fingerprint.text := by
    refine ⟨_, rfl, ?_⟩
    rw [List.map_map, ← Std.ExtTreeMap.map_fst_toList_eq_keys, List.map_map]
    rfl
  choose members shown keys using written
  refine ⟨_, members, read, rfl, rfl, fun stage => ⟨?_, ?_⟩, ?_, fun stage =>
    ⟨(registry.profiles.get stage).keys, keys stage, keys_ascending _⟩⟩
  · simp only [PerStage.get_ofStage]
    exact Document.entriesOf_perm (registry.profiles.get stage)
  · exact Document.decode_listed read stage
  · rw [Document.read_encode, ← shown .vertex, ← shown .pixel]
    rfl

example : (Fingerprint.mk 10).text < (Fingerprint.mk 9).text := by decide

end ShaderIdentity.Registry
