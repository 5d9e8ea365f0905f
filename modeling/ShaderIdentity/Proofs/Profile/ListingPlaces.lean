import ShaderIdentity.Proofs.Files.Apart
import ShaderIdentity.Proofs.Shader.FingerprintText
import ShaderIdentity.Profile.Listing

/-! Where listings stand. Every shader has a place of its own below the directory of all listings,
and no path to it leads anywhere else. -/
namespace ShaderIdentity

namespace Listing

/-- The names that lead to a listing from the directory of all listings. -/
def place (shader : Stage × Fingerprint) : List String :=
  [shader.1.name, "asm", shader.2.text ++ ".asm"]

theorem place_injective : Function.Injective place := by
  rintro ⟨stage, fingerprint⟩ ⟨stage', fingerprint'⟩ same
  obtain ⟨stages, files⟩ : stage.name = stage'.name ∧
      fingerprint.text ++ ".asm" = fingerprint'.text ++ ".asm" := by simpa [place] using same
  obtain rfl : stage = stage' := by
    cases stage <;> cases stage' <;> first | rfl | exact absurd stages (by decide)
  rw [Fingerprint.text_injective ((String.append_left_inj ".asm").mp files)]

section
variable (directory : String) (stage : Stage) (fingerprint : Fingerprint)

theorem names_file :
    Path.names (fingerprint.text ++ ".asm") = [fingerprint.text ++ ".asm"] := by
  have characters : (fingerprint.text ++ ".asm").toList =
      Text.decimal fingerprint.code.toNat ++ ['.', 'a', 's', 'm'] := by
    rw [String.toList_append, Fingerprint.text, String.toList_ofList]
    rfl
  apply Path.names_single
  · rw [characters, List.mem_append, not_or]
    refine ⟨fun mem => ?_, by decide⟩
    exact absurd (Text.isDigit_of_mem_decimal mem) (by decide)
  · rw [characters, Path.isIdle, Bool.or_eq_false_iff, decide_eq_false_iff_not]
    refine ⟨by simp, fun dot => ?_⟩
    have length := congrArg List.length dot
    simp at length

theorem names_path :
    Path.names (path directory stage fingerprint) =
      Path.names directory ++ place (stage, fingerprint) := by
  have name : Path.names stage.name = [stage.name] := by cases stage <;> rfl
  have asm : Path.names "asm" = ["asm"] := rfl
  rw [path, Path.names_join, Path.names_join, Path.names_join, name, asm, names_file]
  simp only [List.append_assoc, List.cons_append, List.nil_append, place]

theorem ne_file {name : String} (short : name.length < 4) :
    name ≠ fingerprint.text ++ ".asm" := by
  rintro rfl
  have asm : ".asm".length = 4 := rfl
  rw [String.length_append] at short
  omega

theorem place_down : ".." ∉ place (stage, fingerprint) := by
  have name : ".." ≠ stage.name := by cases stage <;> decide
  have file : ".." ≠ fingerprint.text ++ ".asm" := ne_file fingerprint (by decide)
  simp [place, name, file]

theorem path_injective :
    Function.Injective fun shader : Stage × Fingerprint => path directory shader.1 shader.2 := by
  intro shader other same
  have names := congrArg Path.names same
  rw [names_path, names_path] at names
  exact place_injective (List.append_cancel_left names)

end

section
variable {files other : FileTree} {directory : String} {stage : Stage} {fingerprint : Fingerprint}

theorem located {location : Location}
    (led : files.locate (path directory stage fingerprint) = .ok location) :
    ∃ top, files.walk [] (Path.names directory) = .ok top ∧
      location = top ++ place (stage, fingerprint) := by
  have walked := FileTree.walk_of_locate led
  rw [names_path] at walked
  obtain ⟨top, there, below⟩ := FileTree.walk_append walked
  exact ⟨top, there, FileTree.walk_down (place_down stage fingerprint) below⟩

/-- The places of two shaders are apart, wherever the directory is. -/
theorem located_apart {shader : Stage × Fingerprint} (another : shader ≠ (stage, fingerprint))
    (location : Location)
    (led : files.locate (path directory shader.1 shader.2) = .ok location) :
    files.locate (path directory stage fingerprint) ≠ .ok location := by
  intro ledToo
  obtain ⟨top, walked, there⟩ := located led
  obtain ⟨top', walked', there'⟩ := located ledToo
  obtain rfl : top = top' := Except.ok.inj (walked.symm.trans walked')
  exact another (place_injective (List.append_cancel_left (there.symm.trans there')))

theorem text?_apart (apart : files.ApartInFile other (path directory stage fingerprint))
    {shader : Stage × Fingerprint} (another : shader ≠ (stage, fingerprint)) :
    (text? other directory shader.1 shader.2).toOption =
      (text? files directory shader.1 shader.2).toOption :=
  apart.readText_toOption (located_apart another)

end

end Listing

end ShaderIdentity
