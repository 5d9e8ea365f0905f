import ShaderIdentity.Proofs.Tracking.Integrity

/-! What each step of a run does to the profile of one shader. Profiles are made by registrations, by
the entries of documents and by the host. From then on only uploads of the world matrix, edits and
loads change them. -/
namespace ShaderIdentity

/-! ## Documents that are loaded -/

namespace Document

/-- The usable entry of a shader. -/
def Contents.entry? (contents : Contents) (stage : Stage) (fingerprint : Fingerprint) :
    Option Settings :=
  (contents.entries.get stage).lookup fingerprint

theorem lookup_eq_some_iff {entries : List (Fingerprint × Settings)} (listed : Listed entries)
    {fingerprint : Fingerprint} {settings : Settings} :
    entries.lookup fingerprint = some settings ↔ (fingerprint, settings) ∈ entries := by
  induction entries with
  | nil => simp
  | cons entry rest ih =>
    obtain ⟨other, given⟩ := entry
    obtain ⟨below, listed⟩ := List.pairwise_cons.mp listed
    by_cases same : fingerprint = other
    · subst same
      have absent : (fingerprint, settings) ∉ rest :=
        fun again => String.lt_irrefl _ (below (fingerprint, settings) again)
      simp [absent, eq_comm]
    · have skipped : (fingerprint == other) = false := beq_false_of_ne same
      simp [List.lookup_cons, skipped, ih listed, same]

end Document

namespace Archive

variable (archive : Archive) (files : FileTree)

/-- What is loaded from the files; nothing when there is no document or it cannot be used. -/
def contents? : Option Document.Contents := do
  (Document.decode (← (files.readText archive.path).toOption)).toOption

variable {archive files}

theorem contents?_eq_some {contents : Document.Contents} :
    archive.contents? files = some contents ↔ ∃ text, files.readText archive.path = .ok text ∧
      Document.decode text = .ok contents := by
  unfold contents?
  cases files.readText archive.path with
  | error fault => simp [Except.toOption]
  | ok text => cases shown : Document.decode text <;> simp [Except.toOption, shown]

theorem load_state_of_none (nothing : archive.contents? files = none) (registry : Registry) :
    (archive.load files registry).state = registry := by
  apply (archive.load_decoded_or_kept registry).resolve_left
  rintro ⟨text, contents, read, decoded⟩
  have found := contents?_eq_some.mpr ⟨text, read, decoded⟩
  rw [nothing] at found
  cases found

theorem entry?_eq_some {contents : Document.Contents}
    (found : archive.contents? files = some contents) {stage : Stage} {fingerprint : Fingerprint}
    {settings : Settings} :
    contents.entry? stage fingerprint = some settings ↔
      (fingerprint, settings) ∈ contents.entries.get stage := by
  obtain ⟨text, -, decoded⟩ := contents?_eq_some.mp found
  exact Document.lookup_eq_some_iff (Document.decode_listed decoded stage)

/-- Its entry takes the place of a profile, and then it watches what its listing mentions. -/
theorem profile?_load {contents : Document.Contents}
    (found : archive.contents? files = some contents) (registry : Registry) (stage : Stage)
    (fingerprint : Fingerprint) :
    (archive.load files registry).state.profile? stage fingerprint =
      (((contents.entry? stage fingerprint).map Settings.toProfile).or
        (registry.profile? stage fingerprint)).map (archive.withListing files stage fingerprint) := by
  obtain ⟨text, read, decoded⟩ := contents?_eq_some.mp found
  cases listed : contents.entry? stage fingerprint with
  | some settings =>
    have mem := (entry?_eq_some found).mp listed
    rw [archive.load_entry registry read decoded mem]
    rfl
  | none =>
    apply archive.load_other registry read decoded
    intro settings mem
    have present := (entry?_eq_some found).mpr mem
    rw [listed] at present
    cases present

end Archive

namespace Registry

theorem profile?_remove (registry : Registry) (stage shown : Stage)
    (fingerprint other : Fingerprint) :
    (registry.remove stage fingerprint).profile? shown other =
      if shown = stage ∧ other = fingerprint then none else registry.profile? shown other := by
  simp only [Registry.profile?, remove, PerStage.get_update]
  by_cases same : shown = stage
  · rw [if_pos same, Std.ExtTreeMap.getElem?_erase]
    by_cases named : other = fingerprint
    · subst named
      simp [same]
    · simp [same, named, Ne.symm named]
  · simp [same]

end Registry

namespace Profile

/-- The profile of a shader that was bound when a world matrix was uploaded. -/
def mark (profile : Profile) : Profile :=
  { profile with bindsWorldMatrix := true }

end Profile

/-! ## Steps -/

/-- What is done on purpose to the settings of a shader. -/
inductive Revision where
  | edited (edit : Profile.Edit)
  | replaced (profile : Profile)
  /-- A document was loaded, with or without an entry of the shader, and its listing was read or
  not. -/
  | loaded (entry : Option Settings) (listing : Option String)

def Revision.apply (stage : Stage) (profile : Profile) : Revision → Profile
  | .edited edit => edit.apply profile
  | .replaced other => other
  | .loaded entry listing =>
    let overwritten : Profile := match entry with
      | some settings => { profile with
          activated := settings.activate
          flags := settings.flags
          watched := settings.watched
          bindsWorldMatrix := false }
      | none => profile
    match listing with
    | some text => { overwritten with
        watched := overwritten.watched.update stage (· ∪ Listing.registers stage text) }
    | none => overwritten

theorem Tracker.act_load (tracker : Tracker) (files : FileTree) :
    (tracker.act (.call (.load files))).registry =
      (tracker.configuration.archive.load files tracker.registry).state :=
  congrArg Tracker.registry (tracker.load_state files)

/-- An action with the tracker that meets it. -/
structure Step where
  before : Tracker
  action : Action

namespace Step

variable (step : Step) (stage : Stage) (fingerprint : Fingerprint)

def after : Tracker :=
  step.before.act step.action

def effect : Effect :=
  step.before.effect step.action

def archive : Archive :=
  step.before.configuration.archive

/-- A handle came to stand for the shader. -/
def Registers : Prop :=
  ∃ handle, step.effect = .registered stage handle fingerprint

/-- A document with a usable entry of the shader was loaded. -/
def Loads : Prop :=
  ∃ files contents settings, step.action = .call (.load files) ∧
    step.archive.contents? files = some contents ∧
    (fingerprint, settings) ∈ contents.entries.get stage

/-- From now on there is a profile of the shader. -/
def Creates : Prop :=
  ¬ step.before.registry.Knows stage fingerprint ∧ step.after.registry.Knows stage fingerprint

/-- The host put a profile of the shader in. -/
def PutsIn : Prop :=
  (∃ profile, step.action = .call (.insert stage fingerprint profile)) ∨
    (∃ change, step.action = .amend change) ∧ step.Creates stage fingerprint

/-- A world matrix was uploaded while the shader was bound on the vertex stage. -/
def UploadsWorldMatrix : Prop :=
  ∃ upload, step.effect = .uploaded upload (some fingerprint) ∧ upload.stage = .vertex ∧
    upload.start = worldMatrixRegister

/-- The revision that the step makes of the settings of the shader. When the host changes the
registry by itself, what it leaves counts where it is not what was there before. -/
def revision? : Option Revision :=
  match step.action with
  | .call (.edit shown edited edit) =>
    if shown = stage ∧ edited = fingerprint then some (.edited edit) else none
  | .call (.insert shown given profile) =>
    if shown = stage ∧ given = fingerprint then some (.replaced profile) else none
  | .call (.load files) =>
    (step.archive.contents? files).map fun contents =>
      .loaded (contents.entry? stage fingerprint) (step.archive.listing? files stage fingerprint)
  | .call _ => none
  | .amend change =>
    let left := (change step.before.registry).profile? stage fingerprint
    if left = step.before.registry.profile? stage fingerprint then none
    else left.map .replaced

/-- What a step can make of the profile of a shader. Without a profile there is nothing to mark, to
edit, or to put a listing to. -/
inductive Turns : Option Profile → Option Profile → Prop where
  | kept (profile : Option Profile) (plain : step.revision? stage fingerprint = none)
      (unmarked : ¬ (stage = .vertex ∧ step.UploadsWorldMatrix fingerprint)) :
      Turns profile profile
  | registered (profile : Option Profile) (registers : step.Registers stage fingerprint)
      (plain : step.revision? stage fingerprint = none) :
      Turns profile (some (profile.getD .initial))
  | marked (profile : Option Profile) (vertex : stage = .vertex)
      (uploads : step.UploadsWorldMatrix fingerprint)
      (plain : step.revision? stage fingerprint = none) :
      Turns profile (profile.map .mark)
  | edited (profile : Option Profile) {edit : Profile.Edit}
      (edits : step.action = .call (.edit stage fingerprint edit)) :
      Turns profile (profile.map edit.apply)
  | inserted (profile : Option Profile) {given : Profile}
      (inserts : step.action = .call (.insert stage fingerprint given)) :
      Turns profile (some given)
  | removed (profile : Option Profile)
      (removes : step.action = .call (.remove stage fingerprint)) :
      Turns profile none
  | loaded (profile : Option Profile) {files : FileTree} {contents : Document.Contents}
      (loads : step.action = .call (.load files))
      (found : step.archive.contents? files = some contents) :
      Turns profile
        ((((contents.entry? stage fingerprint).map Settings.toProfile).or profile).map
          (step.archive.withListing files stage fingerprint))
  | amended (profile : Option Profile) {change : Registry → Registry}
      (amends : step.action = .amend change)
      (was : profile = step.before.registry.profile? stage fingerprint) :
      Turns profile ((change step.before.registry).profile? stage fingerprint)

section
variable {step stage fingerprint}

/-- Settings are revised by calls for profiles and by the host. -/
theorem revision?_eq_none (other : ∀ changed, step.effect ≠ .profiles changed)
    (called : ∀ registry, step.effect ≠ .amended registry) :
    step.revision? stage fingerprint = none := by
  obtain ⟨tracker, action⟩ := step
  cases action with
  | amend change => exact absurd rfl (called _)
  | call call =>
    cases call with
    | edit | insert | load => exact absurd rfl (other _)
    | _ => rfl

theorem UploadsWorldMatrix.plain (uploads : step.UploadsWorldMatrix fingerprint) (shown : Stage)
    (other : Fingerprint) : step.revision? shown other = none := by
  obtain ⟨upload, came, -⟩ := uploads
  apply revision?_eq_none <;> simp [came]

theorem revision?_of_edit {edit : Profile.Edit}
    (edits : step.action = .call (.edit stage fingerprint edit)) :
    step.revision? stage fingerprint = some (.edited edit) := by
  unfold revision?
  rw [edits]
  exact if_pos ⟨rfl, rfl⟩

theorem revision?_of_insert {profile : Profile}
    (inserts : step.action = .call (.insert stage fingerprint profile)) :
    step.revision? stage fingerprint = some (.replaced profile) := by
  unfold revision?
  rw [inserts]
  exact if_pos ⟨rfl, rfl⟩

theorem revision?_of_load {files : FileTree} {contents : Document.Contents}
    (loads : step.action = .call (.load files))
    (found : step.archive.contents? files = some contents) :
    step.revision? stage fingerprint = some (.loaded (contents.entry? stage fingerprint)
      (step.archive.listing? files stage fingerprint)) := by
  unfold revision?
  simp only [loads, found, Option.map_some]

end

/-! ## What a step makes of a profile -/

theorem profile?_of_effect {effect : Effect} (came : step.effect = effect) :
    step.after.registry.profile? stage fingerprint =
      (step.before.apply effect).registry.profile? stage fingerprint := by
  have acted : step.after = step.before.apply step.effect := step.before.act_eq_apply step.action
  rw [acted, came]

theorem profile?_of_load {files : FileTree} {contents : Document.Contents}
    (loads : step.action = .call (.load files))
    (found : step.archive.contents? files = some contents) :
    step.after.registry.profile? stage fingerprint =
      (((contents.entry? stage fingerprint).map Settings.toProfile).or
        (step.before.registry.profile? stage fingerprint)).map
          (step.archive.withListing files stage fingerprint) := by
  rw [after, loads, Tracker.act_load]
  exact Archive.profile?_load found step.before.registry stage fingerprint

theorem profile?_marked (tracker : Tracker) (upload : Upload) :
    (tracker.marked upload).profile? stage fingerprint =
      if stage = .vertex ∧ tracker.bound? upload.stage = some fingerprint ∧
          upload.stage = .vertex ∧ upload.start = worldMatrixRegister then
        (tracker.registry.profile? stage fingerprint).map .mark
      else tracker.registry.profile? stage fingerprint := by
  unfold Tracker.marked
  cases bound : tracker.bound? upload.stage with
  | none => simp
  | some other =>
    dsimp only
    by_cases matrix : upload.stage = .vertex ∧ upload.start = worldMatrixRegister
    · have here : (stage = upload.stage ∧ fingerprint = other) ↔
          (stage = .vertex ∧ some other = some fingerprint ∧ upload.stage = .vertex ∧
            upload.start = worldMatrixRegister) := by
        simp [matrix, eq_comm]
      rw [if_pos matrix, Registry.profile?_modify]
      simp only [here]
      rfl
    · rw [if_neg matrix, if_neg fun marks => matrix marks.2.2]

theorem uploadsWorldMatrix_iff {upload : Upload} {bound : Option Fingerprint}
    (came : step.effect = .uploaded upload bound) :
    step.UploadsWorldMatrix fingerprint ↔
      bound = some fingerprint ∧ upload.stage = .vertex ∧ upload.start = worldMatrixRegister := by
  unfold UploadsWorldMatrix
  rw [came]
  constructor
  · rintro ⟨other, same, matrix⟩
    cases same
    exact ⟨rfl, matrix⟩
  · rintro ⟨rfl, matrix⟩
    exact ⟨upload, rfl, matrix⟩

theorem turns_of_upload {upload : Upload} {bound : Option Fingerprint}
    (came : step.effect = .uploaded upload bound) :
    step.Turns stage fingerprint (step.before.registry.profile? stage fingerprint)
      (step.after.registry.profile? stage fingerprint) := by
  have uploads := step.uploadsWorldMatrix_iff fingerprint came
  have comes : Tracker.ComesTo step.before step.action step.effect :=
    step.before.comesTo_effect step.action
  rw [came] at comes
  cases comes with
  | uploaded accepted =>
    obtain ⟨constants, recorded, -⟩ := step.before.recorded_of_accepted accepted
    have left : (step.before.apply step.effect).registry = step.before.marked upload := by
      rw [came, Tracker.apply, step.before.keep_recorded recorded]
    rw [step.profile?_of_effect stage fingerprint rfl, left, profile?_marked]
    by_cases marks : stage = .vertex ∧ step.UploadsWorldMatrix fingerprint
    · rw [if_pos ⟨marks.1, uploads.mp marks.2⟩]
      exact .marked _ marks.1 marks.2 (marks.2.plain _ _)
    · rw [if_neg fun both => marks ⟨both.1, uploads.mpr both.2⟩]
      exact .kept _ (revision?_eq_none (by simp [came]) (by simp [came])) marks

/-- Nothing but an upload marks a profile. -/
theorem not_marks_of_effect {effect : Effect} (came : step.effect = effect)
    (other : ∀ upload bound, effect ≠ .uploaded upload bound) :
    ¬ (stage = .vertex ∧ step.UploadsWorldMatrix fingerprint) := by
  rintro ⟨-, upload, uploaded, -⟩
  exact other _ _ (came.symm.trans uploaded)

/-- What a step does for one shader leaves the profiles of all others. -/
theorem turns_of_place {shown : Stage} {given : Fingerprint} {result : Option Profile}
    (left : step.after.registry.profile? stage fingerprint =
      if stage = shown ∧ fingerprint = given then result
      else step.before.registry.profile? stage fingerprint)
    (here : stage = shown ∧ fingerprint = given →
      step.Turns stage fingerprint (step.before.registry.profile? stage fingerprint) result)
    (elsewhere : ¬ (stage = shown ∧ fingerprint = given) →
      step.revision? stage fingerprint = none)
    (unmarked : ¬ (stage = .vertex ∧ step.UploadsWorldMatrix fingerprint)) :
    step.Turns stage fingerprint (step.before.registry.profile? stage fingerprint)
      (step.after.registry.profile? stage fingerprint) := by
  rw [left]
  split
  case isTrue same => exact here same
  case isFalse apart => exact .kept _ (elsewhere apart) unmarked

theorem turns_of_registration {shown : Stage} {handle : Handle} {given : Fingerprint}
    (came : step.effect = .registered shown handle given) :
    step.Turns stage fingerprint (step.before.registry.profile? stage fingerprint)
      (step.after.registry.profile? stage fingerprint) := by
  have plain : step.revision? stage fingerprint = none :=
    revision?_eq_none (by simp [came]) (by simp [came])
  have assigned := step.before.registry.profile?_assign shown stage handle given fingerprint
  have left := (step.profile?_of_effect stage fingerprint came).trans assigned
  refine step.turns_of_place stage fingerprint left ?_ (fun _ => plain)
    (step.not_marks_of_effect stage fingerprint came (by simp))
  rintro ⟨rfl, rfl⟩
  exact .registered _ ⟨handle, came⟩ plain

theorem turns_of_rewrite {changed : PerStage ProfileMap}
    (rewrites : step.before.Rewrites step.action changed)
    (came : step.effect = .profiles changed) :
    step.Turns stage fingerprint (step.before.registry.profile? stage fingerprint)
      (step.after.registry.profile? stage fingerprint) := by
  have unmarked := step.not_marks_of_effect stage fingerprint came (by simp)
  obtain ⟨tracker, action⟩ := step
  cases rewrites with
  | edit shown edited edit =>
    have left := tracker.registry.profile?_modify shown stage edited fingerprint edit.apply
    refine turns_of_place ⟨tracker, _⟩ stage fingerprint left ?_ (fun apart => ?_) unmarked
    · rintro ⟨rfl, rfl⟩
      exact .edited _ rfl
    · exact if_neg fun both => apart ⟨both.1.symm, both.2.symm⟩
  | insert shown given profile =>
    have left := tracker.registry.profile?_insert shown stage given fingerprint profile
    refine turns_of_place ⟨tracker, _⟩ stage fingerprint left ?_ (fun apart => ?_) unmarked
    · rintro ⟨rfl, rfl⟩
      exact .inserted _ rfl
    · exact if_neg fun both => apart ⟨both.1.symm, both.2.symm⟩
  | remove shown gone =>
    have left := tracker.registry.profile?_remove shown stage gone fingerprint
    refine turns_of_place ⟨tracker, _⟩ stage fingerprint left ?_ (fun _ => rfl) unmarked
    rintro ⟨rfl, rfl⟩
    exact .removed _ rfl
  | load files =>
    cases found : tracker.configuration.archive.contents? files with
    | none =>
      rw [after, Tracker.act_load, Archive.load_state_of_none found]
      exact .kept _ (Option.map_eq_none_iff.mpr found) unmarked
    | some contents =>
      rw [profile?_of_load ⟨tracker, .call (.load files)⟩ stage fingerprint rfl found]
      exact .loaded _ rfl found

theorem turns_of_idle {effect : Effect} (came : step.effect = effect)
    (plain : ∀ changed, effect ≠ .profiles changed)
    (called : ∀ registry, effect ≠ .amended registry)
    (other : ∀ upload bound, effect ≠ .uploaded upload bound)
    (same : (step.before.apply effect).registry.profile? stage fingerprint =
      step.before.registry.profile? stage fingerprint) :
    step.Turns stage fingerprint (step.before.registry.profile? stage fingerprint)
      (step.after.registry.profile? stage fingerprint) := by
  rw [step.profile?_of_effect stage fingerprint came, same]
  subst came
  exact .kept _ (revision?_eq_none plain called)
    (step.not_marks_of_effect stage fingerprint rfl other)

/-- There is no other way for a step to go. -/
theorem turns : step.Turns stage fingerprint (step.before.registry.profile? stage fingerprint)
    (step.after.registry.profile? stage fingerprint) := by
  cases came : step.effect with
  | registered shown handle given => exact step.turns_of_registration stage fingerprint came
  | uploaded upload bound => exact step.turns_of_upload stage fingerprint came
  | profiles changed =>
    exact step.turns_of_rewrite stage fingerprint (step.before.rewrites_of_effect came) came
  | amended registry =>
    have comes : Tracker.ComesTo step.before step.action step.effect :=
      step.before.comesTo_effect step.action
    rw [came] at comes
    cases comes with
    | amended amends =>
      rw [step.profile?_of_effect stage fingerprint came]
      exact .amended _ amends rfl
  | nothing | bound | destroyed | periodEnded =>
    exact step.turns_of_idle stage fingerprint came (by simp) (by simp) (by simp) rfl

end Step

/-! ## Runs -/

namespace Action

/-- The action takes no profile out. -/
def RemovesNothing : Action → Prop
  | .call (.remove ..) => False
  | .call _ => True
  | .amend change => ∀ (registry : Registry) stage fingerprint,
    registry.Knows stage fingerprint → (change registry).Knows stage fingerprint

end Action

namespace Tracker

/-- The steps of a run, oldest first. -/
def steps (tracker : Tracker) : List Action → List Step
  | [] => []
  | action :: rest => ⟨tracker, action⟩ :: (tracker.act action).steps rest

theorem steps_snoc (tracker : Tracker) (actions : List Action) (last : Action) :
    tracker.steps (actions ++ [last]) =
      tracker.steps actions ++ [⟨tracker.after actions, last⟩] := by
  induction actions generalizing tracker with
  | nil => rfl
  | cons action rest ih => exact congrArg (_ :: ·) (ih (tracker.act action))

end Tracker

end ShaderIdentity
