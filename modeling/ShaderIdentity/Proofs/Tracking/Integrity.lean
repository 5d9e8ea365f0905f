import ShaderIdentity.Proofs.Tracking.Constants
import ShaderIdentity.Proofs.Tracking.Identity
import ShaderIdentity.Proofs.Tracking.Period

/-! What refers to a shader finds its profile. Handles, the fingerprints of a period and the
constants are kept apart from the profiles and change by themselves, yet none of them outlives the
profile that it leads to as long as no profile is taken out. -/
namespace ShaderIdentity

namespace Registry

/-- There is a profile for the fingerprint. -/
def Knows (registry : Registry) (stage : Stage) (fingerprint : Fingerprint) : Prop :=
  (registry.profile? stage fingerprint).isSome = true

variable {registry : Registry} {stage : Stage} {fingerprint : Fingerprint}

theorem knows_assign (known : registry.Knows stage fingerprint) (other : Stage) (handle : Handle)
    (given : Fingerprint) : (registry.assign other handle given).state.Knows stage fingerprint := by
  rw [Knows, profile?_assign]
  split
  · rfl
  · exact known

theorem knows_assigned (registry : Registry) (stage : Stage) (handle : Handle)
    (fingerprint : Fingerprint) :
    (registry.assign stage handle fingerprint).state.Knows stage fingerprint := by
  rw [Knows, profile?_assign, if_pos ⟨rfl, rfl⟩]
  rfl

theorem knows_modify (known : registry.Knows stage fingerprint) (other : Stage)
    (changed : Fingerprint) (change : Profile → Profile) :
    (registry.modify other changed change).Knows stage fingerprint := by
  rw [Knows, profile?_modify]
  split
  · rwa [Option.isSome_map]
  · exact known

theorem knows_insert (known : registry.Knows stage fingerprint) (other : Stage)
    (given : Fingerprint) (profile : Profile) :
    (registry.insert other given profile).Knows stage fingerprint := by
  rw [Knows, profile?_insert]
  split
  · rfl
  · exact known

/-- Loading puts profiles in and takes none out. -/
theorem knows_load (known : registry.Knows stage fingerprint) (archive : Archive)
    (files : FileTree) : (archive.load files registry).state.Knows stage fingerprint := by
  rcases archive.load_decoded_or_kept registry with ⟨text, contents, read, decoded⟩ | kept
  · by_cases listed : ∃ settings, (fingerprint, settings) ∈ contents.entries.get stage
    · obtain ⟨settings, mem⟩ := listed
      rw [Knows, archive.load_entry registry read decoded mem]
      rfl
    · rw [Knows, archive.load_other registry read decoded (not_exists.mp listed),
        Option.isSome_map]
      exact known
  · rwa [kept]

end Registry

namespace Action

/-- The action takes no profile out. When the host changes the registry by itself, a handle that it
lets stand for another fingerprint stands for one with a profile. -/
def KeepsProfiles : Action → Prop
  | .call (.remove ..) => False
  | .call _ => True
  | .amend change => ∀ registry : Registry,
    (∀ stage fingerprint, registry.Knows stage fingerprint →
      (change registry).Knows stage fingerprint) ∧
    ∀ stage handle fingerprint,
      (change registry).fingerprint? stage handle = some fingerprint →
        registry.fingerprint? stage handle = some fingerprint ∨
          (change registry).Knows stage fingerprint

end Action

namespace Tracker

/-! ## Profiles stay -/

section
variable (tracker : Tracker) {action : Action} {stage : Stage} {fingerprint : Fingerprint}

/-- Profiles are changed as such by edits, by putting in and taking out, and by loads. -/
inductive Rewrites : Action → PerStage ProfileMap → Prop where
  | edit (stage : Stage) (fingerprint : Fingerprint) (edit : Profile.Edit) :
      Rewrites (.call (.edit stage fingerprint edit))
        (tracker.registry.modify stage fingerprint edit.apply).profiles
  | insert (stage : Stage) (fingerprint : Fingerprint) (profile : Profile) :
      Rewrites (.call (.insert stage fingerprint profile))
        (tracker.registry.insert stage fingerprint profile).profiles
  | remove (stage : Stage) (fingerprint : Fingerprint) :
      Rewrites (.call (.remove stage fingerprint))
        (tracker.registry.remove stage fingerprint).profiles
  | load (files : FileTree) :
      Rewrites (.call (.load files)) (tracker.load files).state.registry.profiles

theorem onStage_ne_profiles {raw : RawStage} {effect : Stage → Effect}
    {changed : PerStage ProfileMap} (other : ∀ stage, effect stage ≠ .profiles changed) :
    Effect.onStage raw effect ≠ .profiles changed := by
  unfold Effect.onStage
  split
  · exact other _
  · simp

theorem ofRegistration_ne_profiles (stage : Stage) (handle : Handle)
    (answer : Except CallError Fingerprint) (changed : PerStage ProfileMap) :
    Effect.ofRegistration stage handle answer ≠ .profiles changed := by
  cases answer <;> simp [Effect.ofRegistration]

theorem uploadEffect_ne_profiles (upload : Upload) (changed : PerStage ProfileMap) :
    tracker.uploadEffect upload ≠ .profiles changed := by
  unfold uploadEffect
  split <;> simp

theorem rewrites_of_effect {changed : PerStage ProfileMap}
    (came : tracker.effect action = .profiles changed) : Rewrites tracker action changed := by
  cases action with
  | amend change => cases came
  | call call =>
    cases call with
    | edit stage fingerprint edit => cases came; exact .edit stage fingerprint edit
    | insert stage fingerprint profile => cases came; exact .insert stage fingerprint profile
    | remove stage fingerprint => cases came; exact .remove stage fingerprint
    | load files => cases came; exact .load files
    | assign | bind | endPeriod | save => cases came
    | register => exact absurd came (ofRegistration_ne_profiles _ _ _ _)
    | recordUpload => exact absurd came (tracker.uploadEffect_ne_profiles _ _)
    | created | createdFromWords =>
      exact absurd came (onStage_ne_profiles fun stage => ofRegistration_ne_profiles _ _ _ _)
    | bound | destroyed => exact absurd came (onStage_ne_profiles fun stage => by simp)
    | uploaded =>
      exact absurd came (onStage_ne_profiles fun stage => tracker.uploadEffect_ne_profiles _ _)

theorem knows_marked (known : tracker.registry.Knows stage fingerprint) (upload : Upload) :
    (tracker.marked upload).Knows stage fingerprint := by
  unfold marked
  split
  · split
    · exact Registry.knows_modify known ..
    · exact known
  · exact known

theorem knows_keep (known : tracker.registry.Knows stage fingerprint) (upload : Upload) :
    (tracker.keep upload).state.registry.Knows stage fingerprint := by
  cases recorded : tracker.recorded upload with
  | error err => rwa [tracker.keep_short recorded]
  | ok constants =>
    rw [tracker.keep_recorded recorded]
    exact tracker.knows_marked known upload

theorem knows_rewritten {changed : PerStage ProfileMap} (rewrites : Rewrites tracker action changed)
    (kept : action.KeepsProfiles) (known : tracker.registry.Knows stage fingerprint) :
    (tracker.apply (.profiles changed)).registry.Knows stage fingerprint := by
  cases rewrites with
  | edit shown edited edit => exact Registry.knows_modify known shown edited edit.apply
  | insert shown given profile => exact Registry.knows_insert known shown given profile
  | remove => exact absurd kept id
  | load files =>
    rw [← load_state_eq, load_state]
    exact Registry.knows_load known tracker.configuration.archive files

/-- A profile that is there stays. -/
theorem knows_act (kept : action.KeepsProfiles) (known : tracker.registry.Knows stage fingerprint) :
    (tracker.act action).registry.Knows stage fingerprint := by
  rw [act_eq_apply]
  cases came : tracker.effect action with
  | registered shown handle given => exact Registry.knows_assign known shown handle given
  | uploaded upload bound => exact tracker.knows_keep known upload
  | profiles changed => exact tracker.knows_rewritten (tracker.rewrites_of_effect came) kept known
  | amended registry =>
    have comes := tracker.comesTo_effect action
    rw [came] at comes
    cases comes with
    | amended amends =>
      subst amends
      exact (kept tracker.registry).1 stage fingerprint known
  | nothing | bound | destroyed | periodEnded => exact known

end

/-! ## What refers to profiles -/

/-- Every reference to a shader leads to a profile. -/
structure Anchored (tracker : Tracker) : Prop where
  named : ∀ stage handle fingerprint,
    tracker.registry.fingerprint? stage handle = some fingerprint →
      tracker.registry.Knows stage fingerprint
  seen : ∀ stage fingerprint, tracker.bindings.wasBound fingerprint stage = true →
    tracker.registry.Knows stage fingerprint
  held : ∀ kind fingerprint, fingerprint ≠ .unbound →
    (tracker.constants.get? kind fingerprint).isSome = true →
      ∃ stage, tracker.registry.Knows stage fingerprint

section
variable {tracker : Tracker} {action : Action}

theorem Anchored.bound (anchored : Anchored tracker) {stage : Stage} {fingerprint : Fingerprint}
    (bound : tracker.bound? stage = some fingerprint) :
    tracker.registry.Knows stage fingerprint := by
  obtain ⟨handle, -, resolved⟩ := Option.bind_eq_some_iff.mp bound
  exact anchored.named stage handle fingerprint resolved

theorem Anchored.profile?_eq_none (anchored : Anchored tracker) (stage : Stage) :
    tracker.bindings.profile? tracker.registry stage = none ↔ tracker.bound? stage = none := by
  rw [Bindings.profile?_eq_bind, ← bound?]
  cases shown : tracker.bound? stage with
  | none => exact iff_of_true rfl rfl
  | some fingerprint =>
    have known := anchored.bound shown
    refine iff_of_false (fun absent => ?_) (Option.some_ne_none fingerprint)
    have absent : tracker.registry.profile? stage fingerprint = none := absent
    rw [Registry.Knows, absent] at known
    cases known

theorem named_act (anchored : Anchored tracker) (kept : action.KeepsProfiles) {stage : Stage}
    {handle : Handle} {fingerprint : Fingerprint}
    (resolved : (tracker.act action).registry.fingerprint? stage handle = some fingerprint) :
    (tracker.act action).registry.Knows stage fingerprint := by
  cases action with
  | amend change =>
    rcases (kept tracker.registry).2 stage handle fingerprint resolved with before | known
    · exact tracker.knows_act kept (anchored.named stage handle fingerprint before)
    · exact known
  | call call =>
    have leaves : ∀ registry, tracker.effect (.call call) = .amended registry →
        registry.handles = tracker.registry.handles :=
      fun registry came => tracker.part_of_amended (.call call) trivial came
    rw [act_eq_apply] at resolved
    rcases (tracker.fingerprint?_apply stage handle leaves fingerprint).mp resolved with
      made | ⟨-, before⟩
    · rw [act_eq_apply, made]
      exact Registry.knows_assigned tracker.registry stage handle fingerprint
    · exact tracker.knows_act kept (anchored.named stage handle fingerprint before)

theorem held_act (anchored : Anchored tracker) (kept : action.KeepsProfiles) {kind : ConstantKind}
    {fingerprint : Fingerprint} (real : fingerprint ≠ .unbound)
    (held : ((tracker.act action).constants.get? kind fingerprint).isSome = true) :
    ∃ stage, (tracker.act action).registry.Knows stage fingerprint := by
  have before : (∃ stage, tracker.registry.Knows stage fingerprint) →
      ∃ stage, (tracker.act action).registry.Knows stage fingerprint := by
    rintro ⟨stage, known⟩
    exact ⟨stage, tracker.knows_act kept known⟩
  apply before
  rw [get?_act] at held
  cases came : (tracker.effect action).kept? kind fingerprint with
  | none =>
    rw [came] at held
    exact anchored.held kind fingerprint real held
  | some upload =>
    obtain ⟨bound, made⟩ := Effect.eq_uploaded_of_kept? came
    have comes := tracker.comesTo_effect action
    rw [made] at comes came
    cases comes with
    | uploaded accepted =>
      simp only [Effect.kept?] at came
      split at came
      case isTrue under =>
        rcases under.2 with shown | ⟨-, unbound⟩
        · exact ⟨upload.stage, anchored.bound shown⟩
        · exact absurd unbound real
      case isFalse => cases came

end

section
variable (configuration : Configuration)

theorem new_anchored : Anchored (new configuration) := by
  constructor
  case named => simp [new, Registry.empty, Registry.fingerprint?]
  case seen => simp [new, Bindings.empty, Bindings.wasBound]
  case held =>
    intro kind fingerprint _ held
    cases kind <;>
      simp [new, ConstantShadow.empty, ConstantShadow.get?, ConstantShadow.ofKind] at held

/-- What is bound in a period was named when it was bound, and had a profile then. -/
theorem seen_after {actions : List Action} {last : Action} (kept : last.KeepsProfiles)
    (anchored : Anchored ((new configuration).after actions)) {stage : Stage}
    {fingerprint : Fingerprint}
    (seen : ((new configuration).after (actions ++ [last])).bindings.wasBound fingerprint stage =
      true) :
    ((new configuration).after (actions ++ [last])).registry.Knows stage fingerprint := by
  have known : ((new configuration).after actions).registry.Knows stage fingerprint := by
    rcases (wasBound_snoc configuration stage fingerprint actions last).mp seen with
      ⟨handle, -, named⟩ | ⟨-, before⟩
    · exact anchored.named stage handle fingerprint named
    · exact anchored.seen stage fingerprint before
  rw [after_snoc]
  exact ((new configuration).after actions).knows_act kept known

theorem after_anchored (actions : List Action) (kept : ∀ action ∈ actions, action.KeepsProfiles) :
    Anchored ((new configuration).after actions) := by
  -- From the back, since what a period has seen is told from the actions before the last.
  induction actions using List.reverseRecOn with
  | nil => exact new_anchored configuration
  | append_singleton actions last ih =>
    have anchored := ih fun action mem => kept action (List.mem_append_left _ mem)
    have lastKept := kept last (List.mem_append_right _ List.mem_cons_self)
    constructor
    case named =>
      rw [after_snoc]
      exact fun stage handle fingerprint => named_act anchored lastKept
    case seen => exact fun stage fingerprint => seen_after configuration lastKept anchored
    case held =>
      rw [after_snoc]
      exact fun kind fingerprint real => held_act anchored lastKept real

/-- As long as no profile is taken out, every handle that stands for a shader leads to its profile,
and so does every fingerprint that was bound in the period and every one that constants are held
for. A shader that is bound has a profile. -/
theorem references_lead_to_profiles (actions : List Action)
    (kept : ∀ action ∈ actions, action.KeepsProfiles) :
    let tracker := (new configuration).after actions
    (∀ stage handle fingerprint,
      tracker.registry.fingerprint? stage handle = some fingerprint →
        (tracker.registry.profile? stage fingerprint).isSome = true) ∧
    (∀ stage fingerprint, tracker.bindings.wasBound fingerprint stage = true →
      (tracker.registry.profile? stage fingerprint).isSome = true) ∧
    (∀ stage, tracker.bindings.profile? tracker.registry stage = none ↔
      tracker.bound? stage = none) ∧
    ∀ kind fingerprint, fingerprint ≠ .unbound →
      (tracker.constants.get? kind fingerprint).isSome = true →
        ∃ stage, (tracker.registry.profile? stage fingerprint).isSome = true := by
  intro tracker
  have anchored : Anchored tracker := after_anchored configuration actions kept
  exact ⟨anchored.named, anchored.seen, anchored.profile?_eq_none, anchored.held⟩

/-- A handle is destroyed after an upload and comes to stand for another shader. The host itself
lets another one go. -/
theorem reused_handle_leads_to_profile :
    let actions : List Action := [.call (.assign .vertex ⟨1⟩ ⟨5⟩), .call (.bind .vertex ⟨1⟩),
      .call (.recordUpload .vertex .float 195 1 [1, 2, 3, 4]), .call (.destroyed ⟨0x1⟩ ⟨1⟩),
      .call (.assign .vertex ⟨1⟩ ⟨9⟩), .amend (·.forget .pixel ⟨1⟩), .call (.load .empty)]
    let tracker := (new ⟨"p", "d", false, 4096⟩).after actions
    (∀ action ∈ actions, action.KeepsProfiles) ∧
      tracker.registry.fingerprint? .vertex ⟨1⟩ = some ⟨9⟩ ∧
      (tracker.registry.profile? .vertex ⟨9⟩).isSome = true ∧
      (tracker.constants.get? .float ⟨5⟩).isSome = true ∧
      ∃ stage, (tracker.registry.profile? stage ⟨5⟩).isSome = true := by
  intro actions tracker
  have forgets : Action.KeepsProfiles (.amend (·.forget .pixel ⟨1⟩)) := by
    refine fun registry => ⟨fun _ _ known => known, fun stage handle fingerprint named => ?_⟩
    rw [Registry.fingerprint?_forget] at named
    split at named
    · cases named
    · exact .inl named
  have kept : ∀ action ∈ actions, action.KeepsProfiles := by
    simpa [actions, Action.KeepsProfiles] using forgets
  obtain ⟨named, -, -, held⟩ := references_lead_to_profiles ⟨"p", "d", false, 4096⟩ actions kept
  have shown : tracker.registry.fingerprint? .vertex ⟨1⟩ = some ⟨9⟩ := by decide +kernel
  have uploaded : (tracker.constants.get? .float ⟨5⟩).isSome = true := by decide +kernel
  exact ⟨kept, shown, named _ _ _ shown, uploaded, held .float ⟨5⟩ (by decide) uploaded⟩

end

end Tracker

end ShaderIdentity
