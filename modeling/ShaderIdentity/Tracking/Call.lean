import ShaderIdentity.Tracking.Tracker

/-! Calls as data, and what is left after some of them. The files that a call meets are part of the
call. -/
namespace ShaderIdentity

inductive Call where
  | created (raw : RawStage) (bytecode : List UInt8) (handle : Handle)
  | createdFromWords (raw : RawStage) (words : Option (List UInt32)) (handle : Handle)
  | register (stage : Stage) (handle : Handle) (bytecode : List UInt8)
  | assign (stage : Stage) (handle : Handle) (fingerprint : Fingerprint)
  | bound (raw : RawStage) (handle : Handle)
  | bind (stage : Stage) (handle : Handle)
  | destroyed (raw : RawStage) (handle : Handle)
  | uploaded (raw : RawStage) (kind : ConstantKind) (start count : UInt32) (data : List UInt32)
  | recordUpload (stage : Stage) (kind : ConstantKind) (start count : UInt32) (data : List UInt32)
  | endPeriod
  | edit (stage : Stage) (fingerprint : Fingerprint) (edit : Profile.Edit)
  | insert (stage : Stage) (fingerprint : Fingerprint) (profile : Profile)
  | remove (stage : Stage) (fingerprint : Fingerprint)
  | load (files : FileTree)
  | save (files : FileTree)

inductive Reply where
  | done
  | registered (answer : Except CallError Fingerprint)
  | recorded (answer : Except CallError Unit)
  /-- The profile after an edit, or the one that was there before it was replaced or removed. -/
  | profile (profile : Option Profile)
  | loaded (report : Option LoadReport)
  | saved (answer : Except ArchiveError Unit) (files : FileTree)

/-- What a host does to a tracker. Besides its calls it can reach the registry itself, and change
it in any way. -/
inductive Action where
  | call (call : Call)
  | amend (change : Registry → Registry)

namespace Tracker

def perform (tracker : Tracker) : Call → Outcome Tracker Reply
  | .created raw bytecode handle =>
    (tracker.shaderCreated raw bytecode handle).mapAnswer .registered
  | .createdFromWords raw words handle =>
    (tracker.shaderCreatedFromWords raw words handle).mapAnswer .registered
  | .register stage handle bytecode =>
    (tracker.register stage handle bytecode).mapAnswer .registered
  | .assign stage handle fingerprint =>
    (tracker.assign stage handle fingerprint).mapAnswer fun () => .done
  | .bound raw handle => (tracker.shaderBound raw handle).mapAnswer fun () => .done
  | .bind stage handle => (tracker.bind stage handle).mapAnswer fun () => .done
  | .destroyed raw handle => (tracker.shaderDestroyed raw handle).mapAnswer fun () => .done
  | .uploaded raw kind start count data =>
    (tracker.constantsUploaded raw kind start count data).mapAnswer fun () => .done
  | .recordUpload stage kind start count data =>
    (tracker.recordUpload stage kind start count data).mapAnswer .recorded
  | .endPeriod => ⟨.done, tracker.endPeriod, []⟩
  | .edit stage fingerprint edit =>
    let registry := tracker.registry.modify stage fingerprint edit.apply
    ⟨.profile (registry.profile? stage fingerprint), { tracker with registry }, []⟩
  | .insert stage fingerprint profile =>
    ⟨.profile (tracker.registry.profile? stage fingerprint),
      { tracker with registry := tracker.registry.insert stage fingerprint profile }, []⟩
  | .remove stage fingerprint =>
    ⟨.profile (tracker.registry.profile? stage fingerprint),
      { tracker with registry := tracker.registry.remove stage fingerprint }, []⟩
  | .load files => (tracker.load files).mapAnswer .loaded
  | .save files =>
    let saved := tracker.save files
    ⟨.saved saved.answer saved.state, tracker, saved.events⟩

def act (tracker : Tracker) : Action → Tracker
  | .call call => (tracker.perform call).state
  | .amend change => { tracker with registry := change tracker.registry }

/-- The tracker after the actions, one after the other. -/
def after (tracker : Tracker) (actions : List Action) : Tracker :=
  actions.foldl act tracker

end Tracker

end ShaderIdentity
