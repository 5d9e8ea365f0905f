import ShaderIdentity.Proofs.Tracking.Effects

/-! Which shader a handle stands for and what is bound, when handles are used again. A host may give
the same handle to another shader once the first is destroyed, and handles of the two stages are
unrelated. -/
namespace ShaderIdentity

open History

namespace Registry

theorem fingerprint?_forget (registry : Registry) (stage shown : Stage) (handle other : Handle) :
    (registry.forget stage handle).fingerprint? shown other =
      if shown = stage ∧ other = handle then none else registry.fingerprint? shown other := by
  by_cases same : shown = stage
  · subst same
    simp only [Registry.fingerprint?, forget, PerStage.update, PerStage.get_set_self,
      Std.ExtTreeMap.getElem?_erase, Std.LawfulEqOrd.compare_eq_iff_eq, true_and]
    by_cases named : other = handle
    · rw [if_pos named, if_pos named.symm]
    · rw [if_neg named, if_neg (Ne.symm named)]
  · simp only [Registry.fingerprint?, forget, PerStage.update, PerStage.get_set_of_ne _ _ same,
      same, false_and, if_false]

end Registry

namespace Bindings

variable (bindings : Bindings) (registry : Registry) (stage : Stage)

theorem fingerprint?_eq_bind :
    bindings.fingerprint? registry stage =
      (bindings.current.get stage).bind (registry.fingerprint? stage) := rfl

/-- The profile is looked up when the question is asked. -/
theorem profile?_eq_bind :
    bindings.profile? registry stage =
      (bindings.fingerprint? registry stage).bind (registry.profile? stage) := by
  rw [fingerprint?_eq_bind, Option.bind_assoc]
  rfl

theorem isCurrent_iff {fingerprint : Fingerprint} :
    bindings.isCurrent registry fingerprint stage = true ↔
      bindings.fingerprint? registry stage = some fingerprint := decide_eq_true_iff

end Bindings

namespace Effect

variable (stage : Stage) (handle : Handle)

/-- From now on the handle stands for another shader, or for none. -/
def Renames : Effect → Prop
  | .registered other named _ | .destroyed other named => other = stage ∧ named = handle
  | _ => False

/-- From now on the handle is bound on the stage only if the effect binds it. -/
def Rebinds : Effect → Prop
  | .bound other _ => other = stage
  | .destroyed other gone => other = stage ∧ gone = handle
  | _ => False

end Effect

namespace Tracker

section
variable (tracker : Tracker) {effect : Effect} (stage : Stage) (handle : Handle)

theorem fingerprint?_apply
    (kept : ∀ registry, effect = .amended registry → registry.handles = tracker.registry.handles)
    (fingerprint : Fingerprint) :
    (tracker.apply effect).registry.fingerprint? stage handle = some fingerprint ↔
      effect = .registered stage handle fingerprint ∨
        ¬ effect.Renames stage handle ∧
          tracker.registry.fingerprint? stage handle = some fingerprint := by
  cases effect with
  | registered other named given =>
    simp only [apply, assign, Registry.fingerprint?_assign, Effect.Renames, Effect.registered.injEq]
    by_cases same : stage = other ∧ handle = named
    · obtain ⟨rfl, rfl⟩ := same
      simp
    · have apart : ¬ (other = stage ∧ named = handle) := fun eq => same ⟨eq.1.symm, eq.2.symm⟩
      simp only [if_neg same, apart, not_false_eq_true, true_and]
      exact ⟨.inr, fun either => either.resolve_left fun eq => apart ⟨eq.1, eq.2.1⟩⟩
  | destroyed other gone =>
    simp only [apply, Registry.fingerprint?_forget, Effect.Renames, reduceCtorEq, false_or]
    by_cases same : stage = other ∧ handle = gone
    · obtain ⟨rfl, rfl⟩ := same
      simp
    · have apart : ¬ (other = stage ∧ gone = handle) := fun eq => same ⟨eq.1.symm, eq.2.symm⟩
      simp only [if_neg same, apart, not_false_eq_true, true_and]
  | uploaded upload bound =>
    have frame : (tracker.apply (.uploaded upload bound)).registry.handles = _ :=
      (tracker.keep_frame upload).2.1
    simp [Registry.fingerprint?, frame, Effect.Renames]
  | amended registry => simp [Registry.fingerprint?, apply, kept registry rfl, Effect.Renames]
  | nothing | bound | periodEnded | profiles =>
    simp [apply, bind, endPeriod, Registry.fingerprint?, Effect.Renames]

theorem current_apply :
    (tracker.apply effect).bindings.current.get stage = some handle ↔
      effect = .bound stage handle ∨
        ¬ effect.Rebinds stage handle ∧ tracker.bindings.current.get stage = some handle := by
  cases effect with
  | bound other given =>
    simp only [apply, bind, Bindings.bind, PerStage.get_set, Effect.Rebinds, Effect.bound.injEq]
    by_cases same : stage = other
    · subst same
      simp
    · simp [same, Ne.symm same]
  | destroyed other gone =>
    simp only [apply, Effect.Rebinds, reduceCtorEq, false_or]
    split
    case isTrue held =>
      by_cases same : stage = other
      · subst same
        simp [Bindings.unbind, held]
      · simp [Bindings.unbind, PerStage.get_set_of_ne _ _ same, Ne.symm same]
    case isFalse free =>
      constructor
      · intro held
        refine ⟨?_, held⟩
        rintro ⟨rfl, rfl⟩
        exact free held
      · exact And.right
  | uploaded upload bound =>
    have frame : (tracker.apply (.uploaded upload bound)).bindings = _ :=
      (tracker.keep_frame upload).1
    simp [frame, Effect.Rebinds]
  | nothing | registered | periodEnded | profiles | amended =>
    simp [apply, assign, endPeriod, Bindings.endPeriod, Effect.Rebinds]

/-- Nothing is bound again but by a bind on the stage. -/
theorem current_after {later : List Action}
    (free : tracker.bindings.current.get stage = none)
    (unbound : ∀ action ∈ later, ∀ other, action.binding? ≠ some (stage, other)) :
    (tracker.after later).bindings.current.get stage = none := by
  apply tracker.after_induction (fun current => current.bindings.current.get stage = none) free
  intro before action mem free
  rw [act_eq_apply, Option.eq_none_iff_forall_ne_some]
  intro handle held
  rcases (before.current_apply stage handle).mp held with made | ⟨-, still⟩
  · have comes := before.comesTo_effect action
    rw [made] at comes
    cases comes with
    | bound binds => exact unbound action mem handle binds
  · rw [free] at still
    cases still

/-- Destroying the bound shader leaves its stage without one. -/
theorem current_destroyed (held : tracker.bindings.current.get stage = some handle) :
    (tracker.act (.call (.destroyed stage.raw handle))).bindings.current.get stage = none := by
  rw [act_eq_apply]
  simp [effect, callEffect, Effect.onStage, RawStage.stage?_raw, apply, held, Bindings.unbind]

/-- Destroying any other shader changes nothing on the stage. -/
theorem destroyed_elsewhere {raw : RawStage}
    (elsewhere : raw = stage.raw → tracker.bindings.current.get stage ≠ some handle) :
    let after := tracker.act (.call (.destroyed raw handle))
    after.bindings.current.get stage = tracker.bindings.current.get stage ∧
      after.bound? stage = tracker.bound? stage ∧
      after.registry.profiles = tracker.registry.profiles := by
  rw [act_eq_apply]
  cases named : raw.stage? with
  | none => simp [effect, callEffect, Effect.onStage, named, apply]
  | some other =>
    have raw_eq := RawStage.stage?_eq_some.mp named
    have shown : tracker.effect (.call (.destroyed raw handle)) = .destroyed other handle := by
      simp [effect, callEffect, Effect.onStage, named]
    rw [shown]
    have current : (tracker.apply (.destroyed other handle)).bindings.current.get stage =
        tracker.bindings.current.get stage := by
      ext held
      rw [current_apply]
      refine ⟨fun either => (either.resolve_left (by simp)).2, fun now => .inr ⟨?_, now⟩⟩
      rintro ⟨rfl, rfl⟩
      exact elsewhere raw_eq now
    refine ⟨current, ?_, rfl⟩
    rw [bound?, bound?, Bindings.fingerprint?, Bindings.fingerprint?, current]
    cases held : tracker.bindings.current.get stage with
    | none => rfl
    | some bound =>
      refine (Registry.fingerprint?_forget ..).trans (if_neg ?_)
      rintro ⟨rfl, rfl⟩
      exact elsewhere raw_eq held

end

/-! ## Runs -/

section
variable (configuration : Configuration) {actions : List Action} (stage : Stage) (handle : Handle)

theorem fingerprint?_history (kept : ∀ action ∈ actions, action.Leaves Registry.handles)
    (fingerprint : Fingerprint) :
    ((new configuration).after actions).registry.fingerprint? stage handle = some fingerprint ↔
      Last (Effect.Renames stage handle) (.registered stage handle fingerprint)
        ((new configuration).effects actions) := by
  apply (new configuration).last_of_history
    (fun current => current.registry.fingerprint? stage handle = some fingerprint)
  · simp [new, Registry.empty, Registry.fingerprint?]
  · intro current action mem
    rw [act_eq_apply]
    apply fingerprint?_apply
    intro registry came
    exact current.part_of_amended action (kept action mem) came

theorem current_history :
    ((new configuration).after actions).bindings.current.get stage = some handle ↔
      Last (Effect.Rebinds stage handle) (.bound stage handle)
        ((new configuration).effects actions) := by
  apply (new configuration).last_of_history
    (fun current => current.bindings.current.get stage = some handle)
  · simp [new, Bindings.empty]
  · intro current action _
    rw [act_eq_apply]
    exact current.current_apply stage handle

/-- A handle stands for the shader that was last registered under it, until that is destroyed. What
is bound is the handle that was last bound, until its shader is destroyed. A shader that comes to
have the handle of a destroyed one is not bound by that, and destroying a shader that is not bound
on a stage has no effect there. -/
theorem identity_history (actions : List Action)
    (kept : ∀ action ∈ actions, action.Leaves Registry.handles) :
    let tracker := (new configuration).after actions
    let history := (new configuration).effects actions
    (∀ stage handle fingerprint,
      tracker.registry.fingerprint? stage handle = some fingerprint ↔
        Last (Effect.Renames stage handle) (.registered stage handle fingerprint) history) ∧
    (∀ stage handle, tracker.bindings.current.get stage = some handle ↔
      Last (Effect.Rebinds stage handle) (.bound stage handle) history) ∧
    (∀ stage,
      tracker.bound? stage =
        (tracker.bindings.current.get stage).bind (tracker.registry.fingerprint? stage) ∧
      tracker.bindings.profile? tracker.registry stage =
        (tracker.bound? stage).bind (tracker.registry.profile? stage) ∧
      ∀ fingerprint, tracker.bindings.isCurrent tracker.registry fingerprint stage = true ↔
        tracker.bound? stage = some fingerprint) ∧
    (∀ stage handle, tracker.bindings.current.get stage = some handle → ∀ later : List Action,
      (∀ action ∈ later, ∀ other, action.binding? ≠ some (stage, other)) →
      let after := tracker.after (.call (.destroyed stage.raw handle) :: later)
      after.bindings.current.get stage = none ∧ after.bound? stage = none ∧
        after.bindings.profile? after.registry stage = none ∧
        ∀ fingerprint, after.bindings.isCurrent after.registry fingerprint stage = false) ∧
    ∀ stage raw handle, (raw = stage.raw → tracker.bindings.current.get stage ≠ some handle) →
      let after := tracker.act (.call (.destroyed raw handle))
      after.bindings.current.get stage = tracker.bindings.current.get stage ∧
        after.bound? stage = tracker.bound? stage ∧
        after.bindings.profile? after.registry stage =
          tracker.bindings.profile? tracker.registry stage := by
  intro tracker history
  refine ⟨fun stage handle => fingerprint?_history configuration stage handle kept,
    current_history configuration, fun stage => ⟨rfl, ?_, fun _ => ?_⟩,
    fun stage handle held later unbound => ?reused, fun stage raw handle elsewhere => ?elsewhere⟩
  · exact Bindings.profile?_eq_bind ..
  · exact Bindings.isCurrent_iff ..
  case reused =>
    intro after
    have free : after.bindings.current.get stage = none :=
      (tracker.act _).current_after stage (tracker.current_destroyed stage handle held) unbound
    have nothing : after.bound? stage = none := by
      rw [bound?, Bindings.fingerprint?_eq_bind, free]
      rfl
    refine ⟨free, nothing, ?_, fun fingerprint => ?_⟩
    · rw [Bindings.profile?_eq_bind, ← bound?, nothing]
      rfl
    · rw [Bool.eq_false_iff, ne_eq, Bindings.isCurrent_iff, ← bound?, nothing]
      simp
  case elsewhere =>
    intro after
    obtain ⟨current, bound, profiles⟩ := tracker.destroyed_elsewhere stage handle elsewhere
    refine ⟨current, bound, ?_⟩
    rw [Bindings.profile?_eq_bind, Bindings.profile?_eq_bind, ← bound?, ← bound?, bound]
    unfold Registry.profile?
    rw [profiles]

/-- The handle of a destroyed shader is used again while the host edits profiles by itself. -/
theorem identity_of_reused_handle :
    let configuration : Configuration := ⟨"p", "d", false, 4096⟩
    let actions : List Action := [.call (.assign .vertex ⟨1⟩ ⟨5⟩), .call (.bind .vertex ⟨1⟩),
      .call (.destroyed ⟨0x1⟩ ⟨1⟩), .call (.assign .vertex ⟨1⟩ ⟨9⟩), .call (.bind .vertex ⟨2⟩),
      .call (.destroyed ⟨0x10⟩ ⟨1⟩), .amend (·.remove .vertex ⟨9⟩)]
    let tracker := (new configuration).after actions
    (∀ action ∈ actions, action.Leaves Registry.handles) ∧
      tracker.registry.fingerprint? .vertex ⟨1⟩ = some ⟨9⟩ ∧
      tracker.bindings.current.get .vertex = some ⟨2⟩ := by
  intro configuration actions tracker
  have kept : ∀ action ∈ actions, action.Leaves Registry.handles := by
    simp [actions, Action.Leaves, Registry.remove]
  obtain ⟨names, binds, -⟩ := identity_history configuration actions kept
  obtain ⟨registry, shown⟩ : ∃ registry, (new configuration).effects actions =
      [.registered .vertex ⟨1⟩ ⟨5⟩, .bound .vertex ⟨1⟩, .destroyed .vertex ⟨1⟩,
        .registered .vertex ⟨1⟩ ⟨9⟩, .bound .vertex ⟨2⟩, .destroyed .pixel ⟨1⟩,
        .amended registry] := ⟨_, rfl⟩
  rw [shown] at names binds
  refine ⟨kept, (names .vertex ⟨1⟩ ⟨9⟩).mpr ?_, (binds .vertex ⟨2⟩).mpr ?_⟩
  · refine ⟨[_, _, _], _, [_, _, _], rfl, rfl, ?_⟩
    simp [Effect.Renames]
  · refine ⟨[_, _, _, _], _, [_, _], rfl, rfl, ?_⟩
    simp [Effect.Rebinds]

end

end Tracker

end ShaderIdentity
