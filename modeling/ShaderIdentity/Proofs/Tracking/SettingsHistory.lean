import ShaderIdentity.Proofs.Files.TreeLaws
import ShaderIdentity.Proofs.Tracking.ProfileSteps

/-! The settings of a shader are what its user made of them. A profile is made once, and from then
on its settings are those it was made with, revised by edits and by loads and by nothing else. -/
namespace ShaderIdentity

/-- A revision has no regard to what was learnt at run time. -/
theorem Revision.apply_congr (revision : Revision) (stage : Stage) {profile other : Profile}
    (same : Settings.ofProfile profile = Settings.ofProfile other) :
    Settings.ofProfile (revision.apply stage profile) =
      Settings.ofProfile (revision.apply stage other) := by
  obtain ⟨activated, flags, watched, marked⟩ := profile
  obtain ⟨_, _, _, otherMarked⟩ := other
  cases same
  cases revision with
  | edited edit => rfl
  | replaced given => rfl
  | loaded entry listing => cases entry <;> cases listing <;> rfl

namespace Step

/-- What the revision in the step, if there is one, makes of a profile. -/
def revise (step : Step) (stage : Stage) (fingerprint : Fingerprint) (profile : Profile) :
    Profile :=
  ((step.revision? stage fingerprint).map (Revision.apply stage profile)).getD profile

section
variable {step : Step} {stage : Stage} {fingerprint : Fingerprint}

theorem revise_of_none (plain : step.revision? stage fingerprint = none) (profile : Profile) :
    step.revise stage fingerprint profile = profile := by
  rw [revise, plain]
  rfl

theorem revise_of_some {revision : Revision}
    (made : step.revision? stage fingerprint = some revision) (profile : Profile) :
    step.revise stage fingerprint profile = revision.apply stage profile := by
  rw [revise, made]
  rfl

theorem revise_of_amend {change : Registry → Registry} {profile left : Profile}
    (amends : step.action = .amend change)
    (leaves : (change step.before.registry).profile? stage fingerprint = some left)
    (was : ∀ same, step.before.registry.profile? stage fingerprint = some same → same = profile) :
    step.revise stage fingerprint profile = left := by
  by_cases same : (change step.before.registry).profile? stage fingerprint =
      step.before.registry.profile? stage fingerprint
  · have plain : step.revision? stage fingerprint = none := by
      simp only [revision?, amends]
      exact if_pos same
    rw [revise_of_none plain]
    exact (was left (same.symm.trans leaves)).symm
  · have made : step.revision? stage fingerprint = some (.replaced left) := by
      simp only [revision?, amends]
      rw [if_neg same, leaves]
      rfl
    rw [revise_of_some made]
    rfl

/-- A profile that is there stays, and its settings are revised or stay too. -/
theorem Turns.revised {profile : Profile} {after : Option Profile}
    (turns : step.Turns stage fingerprint (some profile) after)
    (kept : step.action.RemovesNothing) :
    ∃ left, after = some left ∧ Settings.ofProfile left =
      Settings.ofProfile (step.revise stage fingerprint profile) := by
  cases turns with
  | kept plain => exact ⟨profile, rfl, by rw [revise_of_none plain]⟩
  | registered _ plain => exact ⟨profile, rfl, by rw [revise_of_none plain]⟩
  | marked _ _ plain => exact ⟨profile.mark, rfl, by rw [revise_of_none plain]; rfl⟩
  | edited edits => exact ⟨_, rfl, by rw [revise_of_some (revision?_of_edit edits)]; rfl⟩
  | inserted inserts => exact ⟨_, rfl, by rw [revise_of_some (revision?_of_insert inserts)]; rfl⟩
  | removed removes =>
    rw [removes] at kept
    cases kept
  | @loaded files contents loads found =>
    rw [revise_of_some (revision?_of_load loads found)]
    cases listed : contents.entry? stage fingerprint <;> exact ⟨_, rfl, rfl⟩
  | @amended change amends was =>
    rw [amends] at kept
    have known : step.before.registry.Knows stage fingerprint := by
      rw [Registry.Knows, ← was]
      rfl
    obtain ⟨left, leaves⟩ := Option.isSome_iff_exists.mp (kept _ _ _ known)
    refine ⟨left, leaves, ?_⟩
    rw [revise_of_amend amends leaves]
    intro same held
    exact Option.some.inj (held.symm.trans was.symm)

/-- A profile is made by a registration, by an entry that is loaded, or by the host. It starts out
as it is made, which is initial for a registration. -/
theorem Turns.made {left : Profile} (turns : step.Turns stage fingerprint none (some left)) :
    (step.Registers stage fingerprint ∨ step.Loads stage fingerprint ∨
      (∃ profile, step.action = .call (.insert stage fingerprint profile)) ∨
        ∃ change, step.action = .amend change) ∧
    Settings.ofProfile left = Settings.ofProfile (step.revise stage fingerprint .initial) := by
  generalize after : some left = now at turns
  cases turns with
  | kept | marked | edited | removed => cases after
  | registered registers plain =>
    cases after
    exact ⟨.inl registers, by rw [revise_of_none plain]; rfl⟩
  | inserted inserts =>
    cases after
    refine ⟨.inr (.inr (.inl ⟨_, inserts⟩)), ?_⟩
    rw [revise_of_some (revision?_of_insert inserts)]
    rfl
  | @loaded files contents loads found =>
    have made : step.revision? stage fingerprint = _ := revision?_of_load loads found
    cases listed : contents.entry? stage fingerprint with
    | none =>
      rw [listed] at after
      cases after
    | some settings =>
      rw [listed] at after made
      cases after
      have mem := (Archive.entry?_eq_some found).mp listed
      refine ⟨.inr (.inl ⟨files, contents, settings, loads, found, mem⟩), ?_⟩
      rw [revise_of_some made]
      rfl
  | @amended change amends was =>
    refine ⟨.inr (.inr (.inr ⟨change, amends⟩)), ?_⟩
    rw [revise_of_amend amends after.symm]
    intro same held
    cases was.trans held

theorem revise_congr (step : Step) (stage : Stage) (fingerprint : Fingerprint)
    {profile other : Profile} (same : Settings.ofProfile profile = Settings.ofProfile other) :
    Settings.ofProfile (step.revise stage fingerprint profile) =
      Settings.ofProfile (step.revise stage fingerprint other) := by
  cases made : step.revision? stage fingerprint with
  | none => rw [revise_of_none made, revise_of_none made, same]
  | some revision =>
    rw [revise_of_some made, revise_of_some made]
    exact revision.apply_congr stage same

/-- The step makes a profile of the shader, if there was none. -/
def Makes (step : Step) (stage : Stage) (fingerprint : Fingerprint) : Prop :=
  step.Registers stage fingerprint ∨ step.Loads stage fingerprint ∨ step.PutsIn stage fingerprint

theorem makes_of_creates (creates : step.Creates stage fingerprint) :
    step.Makes stage fingerprint ∧ ∀ left,
      step.after.registry.profile? stage fingerprint = some left →
        Settings.ofProfile left =
          Settings.ofProfile (step.revise stage fingerprint .initial) := by
  have absent : step.before.registry.profile? stage fingerprint = none :=
    Option.not_isSome_iff_eq_none.mp creates.1
  obtain ⟨made, present⟩ := Option.isSome_iff_exists.mp creates.2
  have turns := step.turns stage fingerprint
  rw [absent, present] at turns
  obtain ⟨how, settings⟩ := turns.made
  refine ⟨?_, fun left held => ?_⟩
  · rcases how with registers | loads | inserts | amends
    · exact .inl registers
    · exact .inr (.inl loads)
    · exact .inr (.inr (.inl inserts))
    · exact .inr (.inr (.inr ⟨amends, creates⟩))
  · cases present.symm.trans held
    exact settings

theorem known_of_makes (makes : step.Makes stage fingerprint) :
    step.after.registry.Knows stage fingerprint := by
  rcases makes with ⟨handle, came⟩ | ⟨files, contents, settings, loads, found, mem⟩ |
    ⟨profile, inserts⟩ | ⟨-, creates⟩
  · rw [Registry.Knows, step.profile?_of_effect stage fingerprint came]
    exact step.before.registry.knows_assigned stage handle fingerprint
  · have listed := (Archive.entry?_eq_some found).mpr mem
    rw [Registry.Knows, step.profile?_of_load stage fingerprint loads found, listed]
    rfl
  · have inserted : step.after.registry.profile? stage fingerprint = some profile := by
      rw [after, inserts]
      exact (step.before.registry.profile?_insert ..).trans (if_pos ⟨rfl, rfl⟩)
    rw [Registry.Knows, inserted]
    rfl
  · exact creates.2

theorem known_after_iff (kept : step.action.RemovesNothing) :
    step.after.registry.Knows stage fingerprint ↔
      step.before.registry.Knows stage fingerprint ∨ step.Makes stage fingerprint := by
  constructor
  · intro known
    by_cases before : step.before.registry.Knows stage fingerprint
    · exact .inl before
    · exact .inr (makes_of_creates ⟨before, known⟩).1
  · rintro (before | makes)
    · obtain ⟨profile, held⟩ := Option.isSome_iff_exists.mp before
      have turns := step.turns stage fingerprint
      rw [held] at turns
      obtain ⟨left, present, -⟩ := turns.revised kept
      rw [Registry.Knows, present]
      rfl
    · exact known_of_makes makes

end

end Step

namespace Tracker

/-! ## Runs -/

/-- The settings that the steps leave, when the first of them makes the profile. -/
def replayed (stage : Stage) (fingerprint : Fingerprint) (steps : List Step) : Settings :=
  Settings.ofProfile ((steps.filterMap (·.revision? stage fingerprint)).foldl
    (Revision.apply stage) .initial)

theorem replayed_snoc (stage : Stage) (fingerprint : Fingerprint) (steps : List Step)
    (last : Step) {profile : Profile}
    (before : Settings.ofProfile profile = replayed stage fingerprint steps) :
    Settings.ofProfile (last.revise stage fingerprint profile) =
      replayed stage fingerprint (steps ++ [last]) := by
  rw [last.revise_congr stage fingerprint before, replayed, List.filterMap_append,
    List.foldl_append]
  cases made : last.revision? stage fingerprint with
  | none => simp [made, Step.revise_of_none made]
  | some revision => simp [made, Step.revise_of_some made]

section
variable (configuration : Configuration) {actions : List Action} {stage : Stage}
  {fingerprint : Fingerprint}

theorem known_iff_made (kept : ∀ action ∈ actions, action.RemovesNothing) :
    ((new configuration).after actions).registry.Knows stage fingerprint ↔
      ∃ step ∈ (new configuration).steps actions, step.Makes stage fingerprint := by
  induction actions using List.reverseRecOn with
  | nil => simp [after, new, Registry.empty, Registry.Knows, Registry.profile?, steps]
  | append_singleton actions last ih =>
    have before := ih fun action mem => kept action (List.mem_append_left _ mem)
    have now : (Step.after ⟨(new configuration).after actions, last⟩).registry.Knows stage
        fingerprint ↔ _ :=
      Step.known_after_iff (kept last (List.mem_append_right _ List.mem_cons_self))
    rw [after_snoc, steps_snoc]
    refine now.trans ?_
    simp only [before, List.mem_append, List.mem_singleton, or_and_right, exists_or,
      exists_eq_left]

theorem settings_replayed (kept : ∀ action ∈ actions, action.RemovesNothing) {profile : Profile}
    (held : ((new configuration).after actions).registry.profile? stage fingerprint =
      some profile) :
    ∃ before first later, (new configuration).steps actions = before ++ first :: later ∧
      first.Creates stage fingerprint ∧
      Settings.ofProfile profile = replayed stage fingerprint (first :: later) := by
  induction actions using List.reverseRecOn generalizing profile with
  | nil =>
    simp [after, new, Registry.empty, Registry.profile?] at held
  | append_singleton actions last ih =>
    let step : Step := ⟨(new configuration).after actions, last⟩
    rw [after_snoc] at held
    rw [steps_snoc]
    -- Either the last step revises what is there, or it is the one that makes the profile.
    by_cases known : step.before.registry.Knows stage fingerprint
    · obtain ⟨old, was⟩ := Option.isSome_iff_exists.mp known
      obtain ⟨before, first, later, split, creates, settings⟩ :=
        ih (fun action mem => kept action (List.mem_append_left _ mem)) was
      have turns := step.turns stage fingerprint
      rw [was] at turns
      obtain ⟨left, present, revised⟩ :=
        turns.revised (kept last (List.mem_append_right _ List.mem_cons_self))
      cases present.symm.trans held
      refine ⟨before, first, later ++ [step], ?_, creates, ?_⟩
      · rw [split, List.append_assoc, List.cons_append]
      · rw [revised, ← List.cons_append]
        exact replayed_snoc stage fingerprint _ step settings
    · have creates : step.Creates stage fingerprint :=
        ⟨known, by rw [Registry.Knows]; exact Option.isSome_of_eq_some held⟩
      refine ⟨(new configuration).steps actions, step, [], rfl, creates, ?_⟩
      rw [(Step.makes_of_creates creates).2 profile held]
      exact replayed_snoc stage fingerprint [] step rfl

/-- As long as no profile is taken out, a shader has one when it was registered, when it had an
entry that was loaded, or when the host put a profile in. Its settings are those that the profile
was made with, then revised in turn by what the host edited and by the documents that were loaded.
Where a step makes no such revision, they stay what they are. -/
theorem settings_history (actions : List Action)
    (kept : ∀ action ∈ actions, action.RemovesNothing) :
    let tracker := (new configuration).after actions
    let history := (new configuration).steps actions
    (∀ stage fingerprint, (tracker.registry.profile? stage fingerprint).isSome = true ↔
      ∃ step ∈ history, step.Registers stage fingerprint ∨ step.Loads stage fingerprint ∨
        step.PutsIn stage fingerprint) ∧
    (∀ stage fingerprint profile,
      tracker.registry.profile? stage fingerprint = some profile →
        ∃ before first later, history = before ++ first :: later ∧
          first.Creates stage fingerprint ∧
          Settings.ofProfile profile = Settings.ofProfile
            (((first :: later).filterMap (·.revision? stage fingerprint)).foldl
              (Revision.apply stage) .initial)) ∧
    ∀ action : Action, action.RemovesNothing → ∀ stage fingerprint profile,
      tracker.registry.profile? stage fingerprint = some profile →
        Step.revision? ⟨tracker, action⟩ stage fingerprint = none →
          ∃ left, (tracker.act action).registry.profile? stage fingerprint = some left ∧
            Settings.ofProfile left = Settings.ofProfile profile := by
  intro tracker history
  refine ⟨fun stage fingerprint => known_iff_made configuration kept,
    fun stage fingerprint profile held => settings_replayed configuration kept held, ?_⟩
  intro action removesNothing stage fingerprint profile held plain
  have turns := Step.turns ⟨tracker, action⟩ stage fingerprint
  rw [held] at turns
  obtain ⟨left, present, settings⟩ := turns.revised removesNothing
  rw [Step.revise_of_none plain] at settings
  exact ⟨left, present, settings⟩

/-- A document gives the shader flags and a register, and its listing mentions another. Then it is
deactivated by hand, bound for an upload and destroyed, and comes to be registered again under
another handle. -/
theorem deactivation_outlasts_registration :
    let configuration : Configuration := ⟨"p", "d", true, 4096⟩
    let written : PerStage ProfileMap := ⟨(∅ : ProfileMap).insert ⟨5⟩
      ⟨true, ⟨2⟩, ⟨.ofList ([1] : List UInt32), ∅⟩, false⟩, ∅⟩
    let above := ((FileTree.empty.put ["d"] .directory).put ["d", "Vertex"] .directory).put
      ["d", "Vertex", "asm"] .directory
    let files := (above.put ["d", "Vertex", "asm", "5.asm"] (.file "gMatPower".toUTF8)).put ["p"]
      (.file (Document.encode written).toUTF8)
    let actions : List Action := [.call (.assign .vertex ⟨1⟩ ⟨5⟩), .call (.load files),
      .call (.edit .vertex ⟨5⟩ ⟨some false, none, none, none, none⟩), .call (.bind .vertex ⟨1⟩),
      .call (.recordUpload .vertex .float 195 1 [1, 2, 3, 4]), .call (.destroyed ⟨0x1⟩ ⟨1⟩),
      .amend (·.forget .pixel ⟨1⟩)]
    let tracker := (new configuration).after actions
    let settings : Settings := ⟨false, ⟨2⟩, ⟨.ofList ([4, 1] : List UInt32), ∅⟩⟩
    (∀ action ∈ actions, action.RemovesNothing) ∧
      (∃ before first later, (new configuration).steps actions = before ++ first :: later ∧
        first.Creates .vertex ⟨5⟩ ∧
        settings = Settings.ofProfile (((first :: later).filterMap
          (·.revision? .vertex ⟨5⟩)).foldl (Revision.apply .vertex) .initial)) ∧
      ∃ left, (tracker.act (.call (.assign .vertex ⟨2⟩ ⟨5⟩))).registry.profile? .vertex ⟨5⟩ =
        some left ∧ Settings.ofProfile left = settings := by
  intro configuration written above files actions
  have forgets : Action.RemovesNothing (.amend (·.forget .pixel ⟨1⟩)) := fun _ _ _ known => known
  have kept : ∀ action ∈ actions, action.RemovesNothing := by
    simpa [actions, Action.RemovesNothing] using forgets
  have led : files.locate "p" = .ok ["p"] := by decide +kernel
  have read : files.readText "p" = .ok (Document.encode written) :=
    FileTree.readText_file led (FileTree.node?_put_self _ _ (by decide)) rfl
  -- What the document says is known from what was written, so it is not read once more to see it.
  have loads (tracker : Tracker) (same : tracker.configuration = configuration) :
      tracker.act (.call (.load files)) = { tracker with
        registry := (configuration.archive.scanned files (Archive.merged tracker.registry
          ⟨1, .ofStage fun stage => Document.entriesOf (written.get stage), []⟩)).state } := by
    have decoded := Document.decode_encode written
    have state := (configuration.archive.load_decoded tracker.registry read decoded).1
    refine (tracker.load_state files).trans ?_
    rw [same, state]
    rfl
  have held : ((new configuration).after actions).registry.profile? .vertex ⟨5⟩ =
      some ⟨false, ⟨2⟩, ⟨.ofList ([4, 1] : List UInt32), ∅⟩, true⟩ := by
    simp only [actions, after_cons]
    rw [loads _ rfl]
    decide +kernel
  obtain ⟨-, replays, stays⟩ := settings_history configuration actions kept
  refine ⟨kept, replays .vertex ⟨5⟩ _ held, ?_⟩
  exact stays (.call (.assign .vertex ⟨2⟩ ⟨5⟩)) trivial .vertex ⟨5⟩ _ held rfl

end

end Tracker

end ShaderIdentity
