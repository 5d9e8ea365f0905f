import ShaderIdentity.Proofs.Tracking.ProfileSteps

/-! Which shaders are marked as using a world matrix. A shader of the vertex stage comes to be marked
by an upload that is made while it is bound, and a document that has an entry for it clears the mark
again. Nothing else has to do with marks. -/
namespace ShaderIdentity

open History

/-- There is a profile for the fingerprint, and it is marked. -/
def Registry.isMarked (registry : Registry) (stage : Stage) (fingerprint : Fingerprint) : Bool :=
  (registry.profile? stage fingerprint).any (·.bindsWorldMatrix)

/-- The host does not set or clear marks, and puts no profile in and takes none out. Where it changes
the registry by itself, profiles may come to be, but without a mark. -/
def Action.LeavesMarks : Action → Prop
  | .call (.insert ..) | .call (.remove ..) => False
  | .call (.edit _ _ edit) => edit.bindsWorldMatrix = none
  | .call _ => True
  | .amend change => ∀ (registry : Registry) stage fingerprint,
    (registry.Knows stage fingerprint → (change registry).Knows stage fingerprint) ∧
      (change registry).isMarked stage fingerprint = registry.isMarked stage fingerprint

namespace Archive

/-- Listings have nothing to do with marks. -/
theorem withListing_mark (archive : Archive) (files : FileTree) (stage : Stage)
    (fingerprint : Fingerprint) (profile : Profile) :
    (archive.withListing files stage fingerprint profile).bindsWorldMatrix =
      profile.bindsWorldMatrix := by
  unfold withListing
  split <;> rfl

end Archive

namespace Step

variable {step : Step} {stage : Stage} {fingerprint : Fingerprint}

theorem loads_iff {files : FileTree} {contents : Document.Contents}
    (loads : step.action = .call (.load files))
    (found : step.archive.contents? files = some contents) :
    step.Loads stage fingerprint ↔ (contents.entry? stage fingerprint).isSome = true := by
  rw [Option.isSome_iff_exists]
  constructor
  · rintro ⟨files, _, settings, same, also, mem⟩
    cases loads.symm.trans same
    cases found.symm.trans also
    exact ⟨settings, (Archive.entry?_eq_some found).mpr mem⟩
  · rintro ⟨settings, listed⟩
    exact ⟨files, contents, settings, loads, found, (Archive.entry?_eq_some found).mp listed⟩

theorem not_loads_of_plain (plain : step.revision? stage fingerprint = none) :
    ¬ step.Loads stage fingerprint := by
  rintro ⟨files, contents, settings, loads, found, -⟩
  rw [revision?_of_load loads found] at plain
  cases plain

theorem not_loads_of_action (other : ∀ files, step.action ≠ .call (.load files)) :
    ¬ step.Loads stage fingerprint := by
  rintro ⟨files, -, -, loads, -⟩
  exact other files loads

theorem not_marks_of_revision {revision : Revision}
    (made : step.revision? stage fingerprint = some revision) :
    ¬ (stage = .vertex ∧ step.UploadsWorldMatrix fingerprint) := by
  rintro ⟨-, uploads⟩
  rw [uploads.plain] at made
  cases made

theorem not_marks_of_registers (registers : step.Registers stage fingerprint) :
    ¬ (stage = .vertex ∧ step.UploadsWorldMatrix fingerprint) := by
  obtain ⟨handle, came⟩ := registers
  exact step.not_marks_of_effect stage fingerprint came (by simp)

theorem not_marks_of_amend {change : Registry → Registry} (amends : step.action = .amend change) :
    ¬ (stage = .vertex ∧ step.UploadsWorldMatrix fingerprint) := by
  have came : step.effect = .amended (change step.before.registry) := by
    rw [effect, amends]
    rfl
  exact step.not_marks_of_effect stage fingerprint came (by simp)

/-- A step that neither uploads a matrix for the shader nor loads an entry for it leaves the mark. -/
theorem marks_iff_of_neither (unmarked : ¬ (stage = .vertex ∧ step.UploadsWorldMatrix fingerprint))
    (noLoad : ¬ step.Loads stage fingerprint) {marked : Prop} :
    marked ↔ (stage = .vertex ∧ step.UploadsWorldMatrix fingerprint) ∨
      ¬ step.Loads stage fingerprint ∧ marked := by
  rw [or_iff_right unmarked, and_iff_right noLoad]

/-- A profile that is there is marked after the step when the step marks it, or when it was marked
before and the step loads no entry for it. -/
theorem Turns.marks {profile : Profile} {after : Option Profile}
    (turns : step.Turns stage fingerprint (some profile) after)
    (leaves : step.action.LeavesMarks) :
    ∃ left, after = some left ∧ (left.bindsWorldMatrix = true ↔
      (stage = .vertex ∧ step.UploadsWorldMatrix fingerprint) ∨
        ¬ step.Loads stage fingerprint ∧ profile.bindsWorldMatrix = true) := by
  cases turns with
  | kept plain unmarked =>
    have noLoad := not_loads_of_plain plain
    exact ⟨profile, rfl, marks_iff_of_neither unmarked noLoad⟩
  | registered registers plain =>
    have noLoad := not_loads_of_plain plain
    have unmarked := not_marks_of_registers registers
    exact ⟨profile, rfl, marks_iff_of_neither unmarked noLoad⟩
  | marked vertex uploads plain =>
    exact ⟨profile.mark, rfl, iff_of_true rfl (.inl ⟨vertex, uploads⟩)⟩
  | @edited edit edits =>
    have unmarked := not_marks_of_revision (revision?_of_edit edits)
    have noLoad : ¬ step.Loads stage fingerprint := not_loads_of_action (by simp [edits])
    rw [edits] at leaves
    have leaves : edit.bindsWorldMatrix = none := leaves
    have same : (edit.apply profile).bindsWorldMatrix = profile.bindsWorldMatrix := by
      rw [Profile.Edit.apply, leaves, Option.getD_none]
    refine ⟨edit.apply profile, rfl, ?_⟩
    rw [same]
    exact marks_iff_of_neither unmarked noLoad
  | inserted inserts =>
    rw [inserts] at leaves
    cases leaves
  | removed removes =>
    rw [removes] at leaves
    cases leaves
  | @loaded files contents loads found =>
    have unmarked : ¬ (stage = .vertex ∧ step.UploadsWorldMatrix fingerprint) :=
      not_marks_of_revision (revision?_of_load loads found)
    have loads : step.Loads stage fingerprint ↔ _ := loads_iff loads found
    rw [loads]
    cases listed : contents.entry? stage fingerprint with
    | none =>
      refine ⟨_, rfl, ?_⟩
      rw [Archive.withListing_mark]
      simp [unmarked]
    | some settings =>
      refine ⟨_, rfl, ?_⟩
      rw [Archive.withListing_mark]
      simp [unmarked, Settings.toProfile]
  | @amended change amends was =>
    have unmarked : ¬ (stage = .vertex ∧ step.UploadsWorldMatrix fingerprint) :=
      not_marks_of_amend amends
    have noLoad : ¬ step.Loads stage fingerprint := not_loads_of_action (by simp [amends])
    rw [amends] at leaves
    obtain ⟨stays, same⟩ := leaves step.before.registry stage fingerprint
    have known : step.before.registry.Knows stage fingerprint := by
      rw [Registry.Knows, ← was]
      rfl
    obtain ⟨left, present⟩ := Option.isSome_iff_exists.mp (stays known)
    rw [Registry.isMarked, Registry.isMarked, present, ← was] at same
    have same : left.bindsWorldMatrix = profile.bindsWorldMatrix := same
    refine ⟨left, present, ?_⟩
    rw [same]
    exact marks_iff_of_neither unmarked noLoad

/-- No profile is made with a mark, nor by an upload. -/
theorem Turns.unmarked {left : Profile} (turns : step.Turns stage fingerprint none (some left))
    (leaves : step.action.LeavesMarks) :
    left.bindsWorldMatrix = false ∧ ¬ (stage = .vertex ∧ step.UploadsWorldMatrix fingerprint) := by
  generalize after : some left = now at turns
  cases turns with
  | kept | marked | edited | removed => cases after
  | registered registers =>
    cases after
    exact ⟨rfl, not_marks_of_registers registers⟩
  | inserted inserts =>
    rw [inserts] at leaves
    cases leaves
  | @loaded files contents loads found =>
    refine ⟨?_, not_marks_of_revision (revision?_of_load loads found)⟩
    cases listed : contents.entry? stage fingerprint with
    | none =>
      rw [listed] at after
      cases after
    | some settings =>
      rw [listed] at after
      cases after
      exact Archive.withListing_mark ..
  | @amended change amends was =>
    rw [amends] at leaves
    obtain ⟨-, same⟩ := leaves step.before.registry stage fingerprint
    rw [Registry.isMarked, Registry.isMarked, ← after, ← was] at same
    exact ⟨same, not_marks_of_amend amends⟩

end Step

namespace Tracker

section
variable (configuration : Configuration)

/-- The shader was bound for an upload of a world matrix, and since then its profile was neither
made nor taken from a document. -/
def MarkedSince (stage : Stage) (fingerprint : Fingerprint) : List Step → Prop :=
  Since (fun _ step => step.UploadsWorldMatrix fingerprint)
    fun step => step.Creates stage fingerprint ∨ step.Loads stage fingerprint

theorem mark_history {actions : List Action} (leaves : ∀ action ∈ actions, action.LeavesMarks)
    {stage : Stage} {fingerprint : Fingerprint} {profile : Profile}
    (held : ((new configuration).after actions).registry.profile? stage fingerprint =
      some profile) :
    profile.bindsWorldMatrix = true ↔ stage = .vertex ∧
      MarkedSince stage fingerprint ((new configuration).steps actions) := by
  induction actions using List.reverseRecOn generalizing profile with
  | nil => simp [after, new, Registry.empty, Registry.profile?] at held
  | append_singleton actions last ih =>
    let step : Step := ⟨(new configuration).after actions, last⟩
    have lastLeaves : step.action.LeavesMarks :=
      leaves last (List.mem_append_right _ List.mem_cons_self)
    have turns := step.turns stage fingerprint
    rw [after_snoc] at held
    have present : step.after.registry.profile? stage fingerprint = some profile := held
    rw [steps_snoc, MarkedSince, since_snoc, ← MarkedSince]
    cases was : step.before.registry.profile? stage fingerprint with
    | none =>
      rw [was, present] at turns
      obtain ⟨unmarked, noUpload⟩ := turns.unmarked lastLeaves
      have creates : step.Creates stage fingerprint := by
        simp [Step.Creates, Registry.Knows, was, present]
      simp only [unmarked, Bool.false_eq_true, false_iff]
      rintro ⟨vertex, uploads | ⟨goesOn, -⟩⟩
      · exact noUpload ⟨vertex, uploads⟩
      · exact goesOn (.inl creates)
    | some old =>
      rw [was, present] at turns
      obtain ⟨left, same, marks⟩ := turns.marks lastLeaves
      cases same
      -- A profile that is there is not made again: of the two ends only the load is left.
      have before := ih (fun action mem => leaves action (List.mem_append_left _ mem)) was
      have notCreates : ¬ step.Creates stage fingerprint := by
        simp [Step.Creates, Registry.Knows, was]
      have goesOn : ¬ (step.Creates stage fingerprint ∨ step.Loads stage fingerprint) ↔
          ¬ step.Loads stage fingerprint := by
        rw [or_iff_right notCreates]
      rw [marks, before, and_or_left]
      apply or_congr_right
      rw [and_left_comm]
      exact and_congr_right' (and_congr_left' goesOn.symm)

/-- As long as the host does not meddle with marks and puts no profile in and takes none out, no
shader of the pixel stage is marked, and one of the vertex stage is when a world matrix was uploaded
while it was bound, after its profile was made and after the last document with an entry for it was
loaded. Any other action leaves the mark as it is. -/
theorem world_matrix_history {actions : List Action}
    (leaves : ∀ action ∈ actions, action.LeavesMarks) :
    let tracker := (new configuration).after actions
    let history := (new configuration).steps actions
    (∀ fingerprint profile, tracker.registry.profile? .pixel fingerprint = some profile →
      profile.bindsWorldMatrix = false) ∧
    (∀ fingerprint profile, tracker.registry.profile? .vertex fingerprint = some profile →
      (profile.bindsWorldMatrix = true ↔
        Since (fun _ step => step.UploadsWorldMatrix fingerprint)
          (fun step => step.Creates .vertex fingerprint ∨ step.Loads .vertex fingerprint)
          history)) ∧
    ∀ action : Action, action.LeavesMarks → ∀ stage fingerprint profile,
      tracker.registry.profile? stage fingerprint = some profile →
        ¬ Step.UploadsWorldMatrix ⟨tracker, action⟩ fingerprint →
        ¬ Step.Loads ⟨tracker, action⟩ stage fingerprint →
          ∃ left, (tracker.act action).registry.profile? stage fingerprint = some left ∧
            left.bindsWorldMatrix = profile.bindsWorldMatrix := by
  intro tracker history
  refine ⟨fun fingerprint profile held => ?pixel, fun fingerprint profile held => ?vertex, ?other⟩
  case pixel =>
    have marked := mark_history configuration leaves held
    rw [Bool.eq_false_iff, ne_eq, marked]
    simp
  case vertex =>
    have marked := mark_history configuration leaves held
    exact marked.trans (and_iff_right rfl)
  case other =>
    intro action lastLeaves stage fingerprint profile held noUpload noLoad
    have turns := Step.turns ⟨tracker, action⟩ stage fingerprint
    rw [held] at turns
    obtain ⟨left, present, marks⟩ := turns.marks lastLeaves
    refine ⟨left, present, ?_⟩
    rw [Bool.eq_iff_iff, marks]
    simp only [noUpload, noLoad, and_false, false_or, not_false_eq_true, true_and]

/-- One shader is bound on both stages while matrices are uploaded. An upload that is too short does
not mark it, one that is not does. Then the shader is destroyed and registered again. -/
theorem mark_outlasts_destruction :
    let actions : List Action := [.call (.assign .vertex ⟨1⟩ ⟨5⟩), .call (.assign .pixel ⟨1⟩ ⟨5⟩),
      .call (.bind .vertex ⟨1⟩), .call (.bind .pixel ⟨1⟩),
      .call (.recordUpload .vertex .float 195 1 [1, 2]),
      .call (.recordUpload .pixel .float 195 1 [1, 2, 3, 4]),
      .call (.recordUpload .vertex .float 195 1 [1, 2, 3, 4]),
      .call (.edit .vertex ⟨5⟩ ⟨some false, none, none, none, none⟩), .call .endPeriod,
      .call (.destroyed ⟨0x1⟩ ⟨1⟩), .amend (·.forget .pixel ⟨1⟩), .call (.load .empty),
      .call (.assign .vertex ⟨2⟩ ⟨5⟩)]
    let tracker := (new ⟨"p", "d", false, 4096⟩).after actions
    let history := (new ⟨"p", "d", false, 4096⟩).steps actions
    (∀ action ∈ actions, action.LeavesMarks) ∧
      (∃ profile, tracker.registry.profile? .pixel ⟨5⟩ = some profile ∧
        profile.bindsWorldMatrix = false) ∧
      Since (fun _ step => step.UploadsWorldMatrix ⟨5⟩)
        (fun step => step.Creates .vertex ⟨5⟩ ∨ step.Loads .vertex ⟨5⟩) history := by
  intro actions tracker history
  have forgets : Action.LeavesMarks (.amend (·.forget .pixel ⟨1⟩)) := fun _ _ _ => ⟨id, rfl⟩
  have leaves : ∀ action ∈ actions, action.LeavesMarks := by
    simpa [actions, Action.LeavesMarks] using forgets
  have pixel : tracker.registry.profile? .pixel ⟨5⟩ = some .initial := by
    decide +kernel
  have vertex : tracker.registry.profile? .vertex ⟨5⟩ = some ⟨false, .empty, .both ∅, true⟩ := by
    decide +kernel
  obtain ⟨unmarked, marked, -⟩ := world_matrix_history ⟨"p", "d", false, 4096⟩ leaves
  exact ⟨leaves, ⟨_, pixel, unmarked _ _ pixel⟩, (marked _ _ vertex).mp rfl⟩

end

end Tracker

end ShaderIdentity
