import ShaderIdentity.Tracking.Call

/-! What one action does to a tracker, and what a run of them leaves. -/
namespace ShaderIdentity

namespace Registry

theorem fingerprint?_assign (registry : Registry) (stage shown : Stage) (handle other : Handle)
    (fingerprint : Fingerprint) :
    (registry.assign stage handle fingerprint).state.fingerprint? shown other =
      if shown = stage ∧ other = handle then some fingerprint
      else registry.fingerprint? shown other := by
  by_cases same : shown = stage
  · subst same
    by_cases named : other = handle
    · subst named
      simp [Registry.fingerprint?, assign, PerStage.update]
    · have ne : compare handle other ≠ .eq :=
        fun eq => named (Std.LawfulEqOrd.eq_of_compare eq).symm
      simp [Registry.fingerprint?, assign, PerStage.update, Std.ExtTreeMap.getElem?_insert, ne,
        named]
  · simp [Registry.fingerprint?, assign, PerStage.update, PerStage.get_set_of_ne _ _ same, same]

/-- A profile that is there stays what it is. -/
theorem profile?_assign (registry : Registry) (stage shown : Stage) (handle : Handle)
    (fingerprint other : Fingerprint) :
    (registry.assign stage handle fingerprint).state.profile? shown other =
      if shown = stage ∧ other = fingerprint then
        some ((registry.profile? shown other).getD .initial)
      else registry.profile? shown other := by
  by_cases same : shown = stage
  · subst same
    simp only [Registry.profile?, assign, PerStage.update, PerStage.get_set_self,
      Std.ExtTreeMap.getElem?_insertIfNew, Std.LawfulEqOrd.compare_eq_iff_eq, true_and]
    by_cases named : other = fingerprint
    · subst named
      cases held : (registry.profiles.get shown)[other]? with
      | none => simp [Std.ExtTreeMap.mem_iff_isSome_getElem?, held]
      | some profile => simp [Std.ExtTreeMap.mem_iff_isSome_getElem?, held]
    · rw [if_neg named, if_neg fun both => named both.1.symm]
  · simp only [Registry.profile?, assign, PerStage.update, PerStage.get_set_of_ne _ _ same, same,
      false_and, if_false]

theorem profile?_modify (registry : Registry) (stage shown : Stage)
    (fingerprint other : Fingerprint) (change : Profile → Profile) :
    (registry.modify stage fingerprint change).profile? shown other =
      if shown = stage ∧ other = fingerprint then (registry.profile? shown other).map change
      else registry.profile? shown other := by
  simp only [Registry.profile?, modify, PerStage.get_update]
  by_cases same : shown = stage
  · rw [if_pos same, Std.ExtTreeMap.getElem?_modify]
    by_cases named : other = fingerprint
    · subst named
      simp [same]
    · simp [same, named, Ne.symm named]
  · simp [same]

theorem profile?_insert (registry : Registry) (stage shown : Stage)
    (fingerprint other : Fingerprint) (profile : Profile) :
    (registry.insert stage fingerprint profile).profile? shown other =
      if shown = stage ∧ other = fingerprint then some profile
      else registry.profile? shown other := by
  simp only [Registry.profile?, insert, PerStage.get_update]
  by_cases same : shown = stage
  · rw [if_pos same, Std.ExtTreeMap.getElem?_insert]
    by_cases named : other = fingerprint
    · subst named
      simp [same]
    · simp [same, named, Ne.symm named]
  · simp [same]

end Registry

namespace Action

/-- The stage and the handle, if the action binds one. -/
def binding? : Action → Option (Stage × Handle)
  | .call (.bind stage handle) => some (stage, handle)
  | .call (.bound raw handle) => raw.stage?.map fun stage => (stage, handle)
  | _ => none

def EndsPeriod : Action → Prop
  | .call .endPeriod => True
  | _ => False

/-- The action binds nothing and ends no period. -/
def Quiet (action : Action) : Prop :=
  action.binding? = none ∧ ¬ action.EndsPeriod

theorem binding?_of_endsPeriod {action : Action} (ends : action.EndsPeriod) :
    action.binding? = none := by
  cases action with
  | amend change => cases ends
  | call call =>
    cases call with
    | endPeriod => rfl
    | _ => cases ends

end Action

namespace Tracker

variable (tracker : Tracker)

/-! ## What one action does to the period -/

theorem act_of_binding {action : Action} {stage : Stage} {handle : Handle}
    (binds : action.binding? = some (stage, handle)) :
    tracker.act action =
      { tracker with bindings := tracker.bindings.bind tracker.registry stage handle } := by
  cases action with
  | amend change => cases binds
  | call call =>
    cases call with
    | bind shown other =>
      cases binds
      rfl
    | bound raw other =>
      obtain ⟨shown, named, same⟩ := Option.map_eq_some_iff.mp binds
      cases same
      simp only [act, perform, shaderBound, onStage, named]
      rfl
    | _ => cases binds

theorem act_of_endsPeriod {action : Action} (ends : action.EndsPeriod) :
    tracker.act action = tracker.endPeriod := by
  cases action with
  | amend change => cases ends
  | call call =>
    cases call with
    | endPeriod => rfl
    | _ => cases ends

/-- What the period remembers is as it was. -/
structure Steady (before after : Tracker) : Prop where
  seen : after.bindings.seen = before.bindings.seen
  preUi : after.bindings.preUi = before.bindings.preUi
  configuration : after.configuration = before.configuration

theorem Steady.refl : Steady tracker tracker := ⟨rfl, rfl, rfl⟩

theorem Steady.trans {a b c : Tracker} (ab : Steady a b) (bc : Steady b c) : Steady a c :=
  ⟨bc.seen.trans ab.seen, bc.preUi.trans ab.preUi, bc.configuration.trans ab.configuration⟩

theorem onStage_steady {α : Type} (raw : RawStage) (refused : CallError → α)
    {call : Stage → Outcome Tracker α} (kept : ∀ stage, Steady tracker (call stage).state) :
    Steady tracker (tracker.onStage raw refused call).state := by
  unfold onStage
  cases raw.stage? with
  | none => exact ⟨rfl, rfl, rfl⟩
  | some stage => exact kept stage

theorem register_steady (stage : Stage) (handle : Handle) (bytecode : List UInt8) :
    Steady tracker (tracker.register stage handle bytecode).state := by
  cases answered : (tracker.registry.register stage handle bytecode).answer with
  | ok fingerprint =>
    simp only [register, answered]
    exact ⟨rfl, rfl, rfl⟩
  | error err =>
    simp only [register, answered]
    exact ⟨rfl, rfl, rfl⟩

theorem recordUpload_steady (stage : Stage) (kind : ConstantKind) (start count : UInt32)
    (data : List UInt32) :
    Steady tracker (tracker.recordUpload stage kind start count data).state := by
  cases recorded : tracker.constants.record kind ((tracker.bound? stage).getD .unbound) start
    count data with
  | ok constants =>
    simp only [recordUpload, recorded]
    exact ⟨rfl, rfl, rfl⟩
  | error err =>
    simp only [recordUpload, recorded]
    exact ⟨rfl, rfl, rfl⟩

theorem act_steady {action : Action} (quiet : action.Quiet) :
    Steady tracker (tracker.act action) := by
  cases action with
  | amend change => exact ⟨rfl, rfl, rfl⟩
  | call call =>
    cases call with
    | created raw bytecode handle =>
      exact tracker.onStage_steady raw Except.error fun stage =>
        tracker.register_steady stage handle bytecode
    | createdFromWords raw words handle =>
      refine tracker.onStage_steady raw Except.error fun stage => ?_
      split
      · exact tracker.register_steady stage handle _
      · exact ⟨rfl, rfl, rfl⟩
    | register stage handle bytecode => exact tracker.register_steady stage handle bytecode
    | bind stage handle => cases quiet.1
    | bound raw handle =>
      have ignored : raw.stage? = none := Option.map_eq_none_iff.mp quiet.1
      simp only [act, perform, shaderBound, onStage, ignored]
      exact ⟨rfl, rfl, rfl⟩
    | destroyed raw handle =>
      refine tracker.onStage_steady raw (fun _ => ()) fun stage => ?_
      dsimp only
      split <;> exact ⟨rfl, rfl, rfl⟩
    | uploaded raw kind start count data =>
      exact tracker.onStage_steady raw (fun _ => ()) fun stage =>
        tracker.recordUpload_steady stage kind start count data
    | recordUpload stage kind start count data =>
      exact tracker.recordUpload_steady stage kind start count data
    | endPeriod => exact absurd trivial quiet.2
    | load files =>
      simp only [act, perform, load]
      split <;> exact ⟨rfl, rfl, rfl⟩
    | assign | edit | insert | remove | save => exact ⟨rfl, rfl, rfl⟩

/-! ## Runs -/

theorem after_cons (action : Action) (rest : List Action) :
    tracker.after (action :: rest) = (tracker.act action).after rest := rfl

theorem after_append (actions later : List Action) :
    tracker.after (actions ++ later) = (tracker.after actions).after later :=
  List.foldl_append

theorem after_snoc (actions : List Action) (last : Action) :
    tracker.after (actions ++ [last]) = (tracker.after actions).act last :=
  tracker.after_append actions [last]

/-- What holds at the start of a run and outlasts each of its actions holds at its end. -/
theorem after_induction (holds : Tracker → Prop) {actions : List Action} (start : holds tracker)
    (step : ∀ current action, action ∈ actions → holds current → holds (current.act action)) :
    holds (tracker.after actions) :=
  List.foldlRecOn actions act start fun current now action mem => step current action mem now

theorem after_steady {actions : List Action}
    (quiet : ∀ action ∈ actions, action.Quiet) :
    Steady tracker (tracker.after actions) := by
  apply tracker.after_induction (Steady tracker) (.refl tracker)
  intro current action mem steady
  exact steady.trans (current.act_steady (quiet action mem))

theorem act_configuration (action : Action) :
    (tracker.act action).configuration = tracker.configuration := by
  by_cases ends : action.EndsPeriod
  · rw [act_of_endsPeriod _ ends]
    rfl
  · cases bound : action.binding? with
    | none => exact (tracker.act_steady ⟨bound, ends⟩).configuration
    | some pair => rw [act_of_binding _ bound]

theorem after_configuration (actions : List Action) :
    (tracker.after actions).configuration = tracker.configuration := by
  apply tracker.after_induction (fun current => current.configuration = tracker.configuration) rfl
  intro current action _ same
  exact (current.act_configuration action).trans same

end Tracker

end ShaderIdentity
