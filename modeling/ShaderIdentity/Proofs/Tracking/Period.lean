import ShaderIdentity.Proofs.Tracking.Actions
import ShaderIdentity.Proofs.Tracking.History

/-! What a period remembers. The fingerprints that were bound in it and the mark of the UI pass
depend on the binds since the last period ended, each taken at its own moment, and on nothing that
was done to a handle or a profile afterwards. -/
namespace ShaderIdentity

namespace Action

/-- One of the actions was such an action, given those before it, and no period has ended since. -/
def SincePeriod (such : List Action → Action → Prop) (actions : List Action) : Prop :=
  ∃ before action after, actions = before ++ action :: after ∧ such before action ∧
    ∀ later ∈ after, ¬ later.EndsPeriod

variable {such : List Action → Action → Prop}

/-- What starts unset, is set by such actions, and is otherwise kept until a period ends. -/
theorem iff_sincePeriod (set : List Action → Prop) (start : ¬ set [])
    (step : ∀ actions last,
      set (actions ++ [last]) ↔ such actions last ∨ ¬ last.EndsPeriod ∧ set actions)
    (actions : List Action) : set actions ↔ SincePeriod such actions :=
  History.iff_since set start step actions

end Action

/-- The flag of the UI pass is the lowest bit. -/
theorem Flags.intersects_uiHook (flags : Flags) :
    flags.intersects .uiHook = true ↔ flags.bits.toNat.testBit 0 = true := by
  have one : uiHook.bits.toNat = 1 := rfl
  have zero : (0 : UInt32).toNat = 0 := rfl
  rw [intersects, decide_eq_true_eq, ne_eq, ← UInt32.toNat_inj, UInt32.toNat_and, one, zero,
    Nat.and_one_is_mod, Nat.testBit_zero, decide_eq_true_eq]
  omega

namespace Bindings

variable (bindings : Bindings) (registry : Registry) (stage : Stage) (handle : Handle)

theorem isFlagged_iff (flags : Flags) :
    bindings.isFlagged registry flags = true ↔ ∃ shown profile,
      bindings.profile? registry shown = some profile ∧ profile.flags.intersects flags = true := by
  have every (shown : Stage) : shown ∈ Stage.all := by cases shown <;> decide
  simp only [isFlagged, profiles, List.any_eq_true, List.mem_filterMap]
  constructor
  · rintro ⟨profile, ⟨shown, -, resolved⟩, flagged⟩
    exact ⟨shown, profile, resolved, flagged⟩
  · rintro ⟨shown, profile, resolved, flagged⟩
    exact ⟨profile, ⟨shown, every shown, resolved⟩, flagged⟩

theorem wasBound_bind (fingerprint : Fingerprint) (shown : Stage) :
    (bindings.bind registry stage handle).wasBound fingerprint shown = true ↔
      (shown = stage ∧ registry.fingerprint? stage handle = some fingerprint) ∨
        bindings.wasBound fingerprint shown = true := by
  cases resolved : registry.fingerprint? stage handle with
  | none => simp [bind, wasBound, resolved]
  | some bound =>
    by_cases same : shown = stage
    · subst same
      simp [bind, wasBound, resolved, PerStage.update, Std.ExtTreeSet.contains_insert]
    · simp [bind, wasBound, resolved, PerStage.update, PerStage.get_set_of_ne _ _ same, same]

theorem preUi_bind :
    (bindings.bind registry stage handle).preUi = true ↔
      (∃ shown profile,
        (bindings.bind registry stage handle).profile? registry shown = some profile ∧
          profile.flags.bits.toNat.testBit 0 = true) ∨
        bindings.preUi = true := by
  simp only [← Flags.intersects_uiHook]
  rw [← isFlagged_iff, or_comm, ← Bool.or_eq_true]
  rfl

end Bindings

namespace Tracker

section
variable (configuration : Configuration)

/-- The action binds a handle on the stage that stands for the fingerprint at that moment. -/
def BindsTo (stage : Stage) (fingerprint : Fingerprint) (before : List Action)
    (action : Action) : Prop :=
  ∃ handle, action.binding? = some (stage, handle) ∧
    ((new configuration).after before).registry.fingerprint? stage handle = some fingerprint

/-- The action binds a handle, and right after it the profile that is bound on some stage has the
lowest bit of its flags set, which is that of the UI pass. -/
def BindsUi (before : List Action) (action : Action) : Prop :=
  action.binding?.isSome = true ∧ ∃ stage profile,
    let tracker := (new configuration).after (before ++ [action])
    tracker.bindings.profile? tracker.registry stage = some profile ∧
      profile.flags.bits.toNat.testBit 0 = true

theorem wasBound_snoc (stage : Stage) (fingerprint : Fingerprint) (actions : List Action)
    (last : Action) :
    ((new configuration).after (actions ++ [last])).bindings.wasBound fingerprint stage = true ↔
      BindsTo configuration stage fingerprint actions last ∨ ¬ last.EndsPeriod ∧
        ((new configuration).after actions).bindings.wasBound fingerprint stage = true := by
  rw [after_snoc]
  by_cases ends : last.EndsPeriod
  case pos =>
    rw [act_of_endsPeriod _ ends]
    simp [BindsTo, Action.binding?_of_endsPeriod ends, ends, endPeriod, Bindings.endPeriod,
      Bindings.wasBound]
  case neg =>
    cases bound : last.binding? with
    | none =>
      have kept := ((new configuration).after actions).act_steady ⟨bound, ends⟩
      simp [BindsTo, bound, ends, Bindings.wasBound, kept.seen]
    | some pair =>
      obtain ⟨shown, handle⟩ := pair
      have same : BindsTo configuration stage fingerprint actions last ↔ stage = shown ∧
          ((new configuration).after actions).registry.fingerprint? shown handle =
            some fingerprint := by
        rw [BindsTo, bound]
        constructor
        · rintro ⟨other, pair, resolved⟩
          cases pair
          exact ⟨rfl, resolved⟩
        · rintro ⟨rfl, resolved⟩
          exact ⟨handle, rfl, resolved⟩
      rw [act_of_binding _ bound, Bindings.wasBound_bind, same]
      exact or_congr_right (and_iff_right ends).symm

theorem preUi_snoc (actions : List Action) (last : Action) :
    ((new configuration).after (actions ++ [last])).bindings.preUi = true ↔
      BindsUi configuration actions last ∨ ¬ last.EndsPeriod ∧
        ((new configuration).after actions).bindings.preUi = true := by
  by_cases ends : last.EndsPeriod
  case pos =>
    rw [after_snoc, act_of_endsPeriod _ ends]
    simp [BindsUi, Action.binding?_of_endsPeriod ends, ends, endPeriod, Bindings.endPeriod]
  case neg =>
    cases bound : last.binding? with
    | none =>
      rw [after_snoc]
      have kept := ((new configuration).after actions).act_steady ⟨bound, ends⟩
      simp [BindsUi, bound, ends, kept.preUi]
    | some pair =>
      obtain ⟨shown, handle⟩ := pair
      simp only [BindsUi, bound, after_snoc, act_of_binding _ bound, Bindings.preUi_bind]
      simp [ends]

/-- What a period remembers is what the binds in it meant when they were made. An action that
binds nothing and ends no period changes none of it, whatever it does to handles and profiles. -/
theorem period_history (actions : List Action) :
    let tracker := (new configuration).after actions
    (∀ fingerprint stage, tracker.bindings.wasBound fingerprint stage = true ↔
      Action.SincePeriod (BindsTo configuration stage fingerprint) actions) ∧
    (tracker.bindings.preUi = true ↔ Action.SincePeriod (BindsUi configuration) actions) ∧
    ∀ later, (∀ action ∈ later, action.Quiet) →
      (∀ fingerprint stage, (tracker.after later).bindings.wasBound fingerprint stage =
        tracker.bindings.wasBound fingerprint stage) ∧
      (tracker.after later).bindings.preUi = tracker.bindings.preUi := by
  intro tracker
  refine ⟨fun fingerprint stage => ?seen, ?preUi, fun later quiet => ?later⟩
  case seen =>
    refine Action.iff_sincePeriod (fun actions =>
      ((new configuration).after actions).bindings.wasBound fingerprint stage = true) ?_
      (wasBound_snoc configuration stage fingerprint) actions
    simp [after, new, Bindings.wasBound, Bindings.empty]
  case preUi =>
    exact Action.iff_sincePeriod (fun actions =>
      ((new configuration).after actions).bindings.preUi = true) Bool.false_ne_true
      (preUi_snoc configuration) actions
  case later =>
    obtain ⟨seen, preUi, -⟩ := tracker.after_steady quiet
    refine ⟨fun fingerprint stage => ?_, preUi⟩
    rw [Bindings.wasBound, seen]
    rfl

end

end Tracker

end ShaderIdentity
