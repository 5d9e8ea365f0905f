import ShaderIdentity.Proofs.Tracking.Actions
import ShaderIdentity.Proofs.Tracking.History
import ShaderIdentity.Proofs.Tracking.Loading

/-! What each action comes to. Calls differ in how they name a stage and in what they refuse; past
that there are only a few things that can happen to a tracker. The effects of a run are its history,
from which the state at its end follows. -/
namespace ShaderIdentity

/-- Constants that a host uploads on a stage. -/
structure Upload where
  stage : Stage
  kind : ConstantKind
  start : UInt32
  count : UInt32
  data : List UInt32
  deriving DecidableEq

inductive Effect where
  /-- The call was refused, or it only wrote files. -/
  | nothing
  | registered (stage : Stage) (handle : Handle) (fingerprint : Fingerprint)
  | bound (stage : Stage) (handle : Handle)
  | destroyed (stage : Stage) (handle : Handle)
  /-- The upload was kept. The fingerprint is the one that was bound on its stage, if any was. -/
  | uploaded (upload : Upload) (bound : Option Fingerprint)
  | periodEnded
  /-- Profiles were edited, put in, taken out or loaded. -/
  | profiles (changed : PerStage ProfileMap)
  /-- The host changed the registry itself. -/
  | amended (registry : Registry)

/-- Whatever the host changes by itself, it leaves this part of the registry to the tracker. -/
def Action.Leaves {α : Type} (part : Registry → α) : Action → Prop
  | .call _ => True
  | .amend change => ∀ registry, part (change registry) = part registry

namespace Effect

/-- A call for any other stage comes to nothing. -/
def onStage (raw : RawStage) (effect : Stage → Effect) : Effect :=
  match raw.stage? with
  | some stage => effect stage
  | none => .nothing

def ofRegistration (stage : Stage) (handle : Handle) : Except CallError Fingerprint → Effect
  | .ok fingerprint => .registered stage handle fingerprint
  | .error _ => .nothing

end Effect

namespace Tracker

variable (tracker : Tracker)

def keep (upload : Upload) : Outcome Tracker (Except CallError Unit) :=
  tracker.recordUpload upload.stage upload.kind upload.start upload.count upload.data

/-- The constants that are held when the upload is kept. -/
def recorded (upload : Upload) : Except ShortData ConstantShadow :=
  tracker.constants.record upload.kind ((tracker.bound? upload.stage).getD .unbound) upload.start
    upload.count upload.data

/-- The registry that is left when the upload is kept. -/
def marked (upload : Upload) : Registry :=
  match tracker.bound? upload.stage with
  | some fingerprint =>
    if upload.stage = .vertex ∧ upload.start = worldMatrixRegister then
      tracker.registry.modify upload.stage fingerprint fun profile =>
        { profile with bindsWorldMatrix := true }
    else tracker.registry
  | none => tracker.registry

def uploadEffect (upload : Upload) : Effect :=
  match (tracker.keep upload).answer with
  | .ok () => .uploaded upload (tracker.bound? upload.stage)
  | .error _ => .nothing

/-- What a call comes to, as its answer tells. -/
def callEffect : Call → Effect
  | .created raw bytecode handle =>
    .onStage raw fun stage =>
      .ofRegistration stage handle (tracker.shaderCreated raw bytecode handle).answer
  | .createdFromWords raw words handle =>
    .onStage raw fun stage =>
      .ofRegistration stage handle (tracker.shaderCreatedFromWords raw words handle).answer
  | .register stage handle bytecode =>
    .ofRegistration stage handle (tracker.register stage handle bytecode).answer
  | .assign stage handle fingerprint => .registered stage handle fingerprint
  | .bound raw handle => .onStage raw fun stage => .bound stage handle
  | .bind stage handle => .bound stage handle
  | .destroyed raw handle => .onStage raw fun stage => .destroyed stage handle
  | .uploaded raw kind start count data =>
    .onStage raw fun stage => tracker.uploadEffect ⟨stage, kind, start, count, data⟩
  | .recordUpload stage kind start count data =>
    tracker.uploadEffect ⟨stage, kind, start, count, data⟩
  | .endPeriod => .periodEnded
  | .edit stage fingerprint edit =>
    .profiles (tracker.registry.modify stage fingerprint edit.apply).profiles
  | .insert stage fingerprint profile =>
    .profiles (tracker.registry.insert stage fingerprint profile).profiles
  | .remove stage fingerprint => .profiles (tracker.registry.remove stage fingerprint).profiles
  | .load files => .profiles (tracker.load files).state.registry.profiles
  | .save _ => .nothing

def effect : Action → Effect
  | .call call => tracker.callEffect call
  | .amend change => .amended (change tracker.registry)

def apply : Effect → Tracker
  | .nothing => tracker
  | .registered stage handle fingerprint => (tracker.assign stage handle fingerprint).state
  | .bound stage handle => (tracker.bind stage handle).state
  | .destroyed stage handle =>
    { tracker with
      registry := tracker.registry.forget stage handle
      bindings :=
        if tracker.bindings.current.get stage = some handle then tracker.bindings.unbind stage
        else tracker.bindings }
  | .uploaded upload _ => (tracker.keep upload).state
  | .periodEnded => tracker.endPeriod
  | .profiles changed =>
    { tracker with registry := { tracker.registry with profiles := changed } }
  | .amended registry => { tracker with registry }

/-- The effects of the actions, each on the tracker that those before it leave. -/
def effects (tracker : Tracker) : List Action → List Effect
  | [] => []
  | action :: rest => tracker.effect action :: (tracker.act action).effects rest

/-! ## An action does what it comes to -/

theorem onStage_state {α : Type} (raw : RawStage) (refused : CallError → α)
    (call : Stage → Outcome Tracker α) (effect : Stage → Effect)
    (same : ∀ stage, raw.stage? = some stage → (call stage).state = tracker.apply (effect stage)) :
    (tracker.onStage raw refused call).state = tracker.apply (.onStage raw effect) := by
  unfold onStage Effect.onStage
  cases named : raw.stage? with
  | none => rfl
  | some stage => exact same stage named

theorem register_eq (stage : Stage) (handle : Handle) (bytecode : List UInt8) :
    tracker.register stage handle bytecode =
      match Fingerprint.ofBytes bytecode tracker.registry.bytecodeLimit with
      | .ok fingerprint =>
        (tracker.assign stage handle fingerprint).mapAnswer fun () => .ok fingerprint
      | .error err => tracker.rejectBytecode stage handle err := by
  unfold register Registry.register
  cases Fingerprint.ofBytes bytecode tracker.registry.bytecodeLimit with
  | ok fingerprint => rfl
  | error err => rfl

theorem register_state (stage : Stage) (handle : Handle) (bytecode : List UInt8) :
    (tracker.register stage handle bytecode).state =
      tracker.apply (.ofRegistration stage handle
        (tracker.register stage handle bytecode).answer) := by
  rw [register_eq]
  cases Fingerprint.ofBytes bytecode tracker.registry.bytecodeLimit with
  | ok fingerprint => rfl
  | error err => rfl

theorem keep_short {upload : Upload} {err : ShortData}
    (short : tracker.recorded upload = .error err) :
    tracker.keep upload = ⟨.error (.shortData err), tracker, []⟩ := by
  unfold recorded at short
  rw [keep, recordUpload, short]

theorem keep_recorded {upload : Upload} {constants : ConstantShadow}
    (recorded : tracker.recorded upload = .ok constants) :
    tracker.keep upload =
      ⟨.ok (), { tracker with constants, registry := tracker.marked upload }, []⟩ := by
  unfold Tracker.recorded at recorded
  rw [keep, recordUpload, recorded]
  rfl

theorem keep_state (upload : Upload) :
    (tracker.keep upload).state = tracker.apply (tracker.uploadEffect upload) := by
  cases recorded : tracker.recorded upload with
  | ok constants => simp only [uploadEffect, tracker.keep_recorded recorded, apply]
  | error err => simp only [uploadEffect, tracker.keep_short recorded, apply]

theorem load_state (files : FileTree) :
    (tracker.load files).state = { tracker with
      registry := (tracker.configuration.archive.load files tracker.registry).state } := by
  simp only [load]
  split <;> rfl

/-- A load that fails leaves the whole tracker. -/
theorem load_failed {files : FileTree} {err : ArchiveError}
    (failed : (tracker.configuration.archive.load files tracker.registry).answer = .error err) :
    tracker.load files = ⟨none, tracker,
      (tracker.configuration.archive.load files tracker.registry).events ++
        [.loadFailed err]⟩ := by
  have kept := tracker.configuration.archive.load_state_of_error tracker.registry failed
  simp only [load, failed, kept]

theorem save_replaced {files saved : FileTree}
    (replaced : Archive.replace files tracker.configuration.archive.path
      (Document.encode tracker.registry.profiles) = (saved, .ok ())) :
    tracker.save files = ⟨.ok (), saved, [.saved]⟩ := by
  unfold save Archive.save
  rw [replaced]

theorem save_failed {files saved : FileTree} {err : FileError}
    (failed : Archive.replace files tracker.configuration.archive.path
      (Document.encode tracker.registry.profiles) = (saved, .error err)) :
    tracker.save files = ⟨.error (.file err), saved, [.saveFailed (.file err)]⟩ := by
  unfold save Archive.save
  rw [failed]
  rfl

theorem perform_save (files : FileTree) :
    tracker.perform (.save files) =
      ⟨.saved (tracker.save files).answer (tracker.save files).state, tracker,
        (tracker.save files).events⟩ := rfl

theorem load_state_eq (files : FileTree) :
    (tracker.load files).state = tracker.apply (.profiles
      (tracker.load files).state.registry.profiles) := by
  obtain ⟨handles, limit⟩ :
      (tracker.configuration.archive.load files tracker.registry).state.handles =
          tracker.registry.handles ∧
        (tracker.configuration.archive.load files tracker.registry).state.bytecodeLimit =
          tracker.registry.bytecodeLimit :=
    tracker.configuration.archive.load_handles tracker.registry
  rw [load_state]
  simp only [apply, ← handles, ← limit]

theorem act_eq_apply (action : Action) :
    tracker.act action = tracker.apply (tracker.effect action) := by
  cases action with
  | amend change => rfl
  | call call =>
    cases call with
    | created raw bytecode handle =>
      refine tracker.onStage_state raw Except.error _ _ fun stage named => ?_
      simp only [shaderCreated, onStage, named]
      exact tracker.register_state stage handle bytecode
    | createdFromWords raw words handle =>
      refine tracker.onStage_state raw Except.error _ _ fun stage named => ?_
      simp only [shaderCreatedFromWords, onStage, named]
      cases streamOfWords words tracker.configuration.bytecodeLimit.toNat with
      | ok bytecode => exact tracker.register_state stage handle bytecode
      | error err => rfl
    | register stage handle bytecode => exact tracker.register_state stage handle bytecode
    | bound raw handle => exact tracker.onStage_state raw (fun _ => ()) _ _ fun stage _ => rfl
    | destroyed raw handle => exact tracker.onStage_state raw (fun _ => ()) _ _ fun stage _ => rfl
    | uploaded raw kind start count data =>
      exact tracker.onStage_state raw (fun _ => ()) _ _ fun stage _ =>
        tracker.keep_state ⟨stage, kind, start, count, data⟩
    | recordUpload stage kind start count data =>
      exact tracker.keep_state ⟨stage, kind, start, count, data⟩
    | load files => exact tracker.load_state_eq files
    | assign | bind | endPeriod | edit | insert | remove | save => rfl

theorem effects_append (actions later : List Action) :
    tracker.effects (actions ++ later) =
      tracker.effects actions ++ (tracker.after actions).effects later := by
  induction actions generalizing tracker with
  | nil => rfl
  | cons action rest ih => exact congrArg (tracker.effect action :: ·) (ih (tracker.act action))

/-! ## What an action can come to -/

/-- The effects that an action can have on the tracker. -/
inductive ComesTo (action : Action) : Effect → Prop where
  | nothing : ComesTo action .nothing
  | registered (stage : Stage) (handle : Handle) (fingerprint : Fingerprint) :
      ComesTo action (.registered stage handle fingerprint)
  | bound {stage : Stage} {handle : Handle} (binds : action.binding? = some (stage, handle)) :
      ComesTo action (.bound stage handle)
  | destroyed (stage : Stage) (handle : Handle) : ComesTo action (.destroyed stage handle)
  | uploaded {upload : Upload} (accepted : (tracker.keep upload).answer = .ok ()) :
      ComesTo action (.uploaded upload (tracker.bound? upload.stage))
  | periodEnded : ComesTo action .periodEnded
  | profiles (changed : PerStage ProfileMap) : ComesTo action (.profiles changed)
  | amended {change : Registry → Registry} (amends : action = .amend change) :
      ComesTo action (.amended (change tracker.registry))

variable {tracker} {action : Action}

theorem comesTo_onStage {raw : RawStage} {effect : Stage → Effect}
    (named : ∀ stage, raw.stage? = some stage → ComesTo tracker action (effect stage)) :
    ComesTo tracker action (.onStage raw effect) := by
  unfold Effect.onStage
  split
  · exact named _ ‹_›
  · exact .nothing

theorem comesTo_ofRegistration (stage : Stage) (handle : Handle)
    (answer : Except CallError Fingerprint) :
    ComesTo tracker action (.ofRegistration stage handle answer) := by
  cases answer with
  | ok fingerprint => exact .registered stage handle fingerprint
  | error err => exact .nothing

theorem comesTo_uploadEffect (upload : Upload) :
    ComesTo tracker action (tracker.uploadEffect upload) := by
  unfold uploadEffect
  split
  · exact .uploaded ‹_›
  · exact .nothing

variable (tracker action)

theorem comesTo_effect : ComesTo tracker action (tracker.effect action) := by
  cases action with
  | amend change => exact .amended rfl
  | call call =>
    cases call with
    | created | createdFromWords =>
      exact comesTo_onStage fun stage _ => comesTo_ofRegistration stage _ _
    | register => exact comesTo_ofRegistration _ _ _
    | assign => exact .registered _ _ _
    | bound raw handle =>
      exact comesTo_onStage fun stage named => .bound (by rw [Action.binding?, named]; rfl)
    | bind => exact .bound rfl
    | destroyed => exact comesTo_onStage fun stage _ => .destroyed stage _
    | uploaded => exact comesTo_onStage fun stage _ => comesTo_uploadEffect _
    | recordUpload => exact comesTo_uploadEffect _
    | endPeriod => exact .periodEnded
    | edit | insert | remove | load => exact .profiles _
    | save => exact .nothing

theorem part_of_amended {α : Type} {part : Registry → α} {registry : Registry}
    (leaves : action.Leaves part) (came : tracker.effect action = .amended registry) :
    part registry = part tracker.registry := by
  have comes := tracker.comesTo_effect action
  rw [came] at comes
  cases comes with
  | amended amends =>
    subst amends
    exact leaves _

/-! ## What an effect leaves alone -/

theorem marked_handles (upload : Upload) :
    (tracker.marked upload).handles = tracker.registry.handles ∧
      (tracker.marked upload).bytecodeLimit = tracker.registry.bytecodeLimit := by
  unfold marked
  split
  · split <;> exact ⟨rfl, rfl⟩
  · exact ⟨rfl, rfl⟩

theorem keep_frame (upload : Upload) :
    (tracker.keep upload).state.bindings = tracker.bindings ∧
      (tracker.keep upload).state.registry.handles = tracker.registry.handles ∧
      (tracker.keep upload).state.registry.bytecodeLimit = tracker.registry.bytecodeLimit := by
  cases recorded : tracker.recorded upload with
  | error err =>
    rw [tracker.keep_short recorded]
    exact ⟨rfl, rfl, rfl⟩
  | ok constants =>
    rw [tracker.keep_recorded recorded]
    exact ⟨rfl, tracker.marked_handles upload⟩

theorem act_bytecodeLimit (leaves : action.Leaves Registry.bytecodeLimit) :
    (tracker.act action).registry.bytecodeLimit = tracker.registry.bytecodeLimit := by
  rw [act_eq_apply]
  cases came : tracker.effect action with
  | uploaded upload bound => exact (tracker.keep_frame upload).2.2
  | amended registry => exact tracker.part_of_amended action leaves came
  | nothing | registered | bound | destroyed | periodEnded | profiles => rfl

/-- The limit on bytecode is in the configuration and in the registry, and stays as it is in
both. -/
theorem after_bytecodeLimit {actions : List Action}
    (leaves : ∀ action ∈ actions, action.Leaves Registry.bytecodeLimit) :
    (tracker.after actions).registry.bytecodeLimit = tracker.registry.bytecodeLimit := by
  apply tracker.after_induction
    (fun current => current.registry.bytecodeLimit = tracker.registry.bytecodeLimit) rfl
  intro current action mem same
  exact (current.act_bytecodeLimit action (leaves action mem)).trans same

/-! ## Histories of effects -/

/-- What one effect brings about, and what holds on until another concerns it, holds at the end of a
run when that effect was the last one to concern it. -/
theorem last_of_history (holds : Tracker → Prop) {concerns : Effect → Prop} {made : Effect}
    {actions : List Action} (start : ¬ holds tracker)
    (step : ∀ current action, action ∈ actions → (holds (current.act action) ↔
      current.effect action = made ∨ ¬ concerns (current.effect action) ∧ holds current)) :
    holds (tracker.after actions) ↔ History.Last concerns made (tracker.effects actions) := by
  -- From the back, so that the state before the last action is the one whose effect counts.
  induction actions using List.reverseRecOn with
  | nil => exact iff_of_false start History.not_since_nil
  | append_singleton actions last ih =>
    have before := ih fun current action mem => step current action (List.mem_append_left _ mem)
    have now := step (tracker.after actions) last (List.mem_append_right _ List.mem_cons_self)
    rw [after_snoc, now, before, effects_append, History.Last, effects, effects,
      History.since_snoc]

end Tracker

end ShaderIdentity
