import ShaderIdentity.Tracking.Bindings
import ShaderIdentity.Tracking.Configuration

/-! The shaders of one device: what a host reports about them, and what can be asked. A call that
is refused changes nothing. -/
namespace ShaderIdentity

structure Tracker where
  registry : Registry
  bindings : Bindings
  constants : ConstantShadow
  configuration : Configuration
  deriving DecidableEq

namespace Tracker

def new (configuration : Configuration) : Tracker :=
  ⟨.empty configuration.bytecodeLimit.toNat, .empty, .empty, configuration⟩

/-- The fingerprint of what is bound on a stage. -/
def bound? (tracker : Tracker) (stage : Stage) : Option Fingerprint :=
  tracker.bindings.fingerprint? tracker.registry stage

/-- Goes on with the stage that a host means, or ignores a call for any other. -/
def onStage {α : Type} (tracker : Tracker) (raw : RawStage) (refused : CallError → α)
    (call : Stage → Outcome Tracker α) : Outcome Tracker α :=
  match raw.stage? with
  | some stage => call stage
  | none => ⟨refused (.unsupportedStage raw), tracker, [.callIgnored (.unsupportedStage raw)]⟩

def rejectBytecode (tracker : Tracker) (stage : Stage) (handle : Handle) (err : BytecodeError) :
    Outcome Tracker (Except CallError Fingerprint) :=
  ⟨.error (.bytecode err), tracker, [.bytecodeRejected stage handle err]⟩

def register (tracker : Tracker) (stage : Stage) (handle : Handle) (bytecode : List UInt8) :
    Outcome Tracker (Except CallError Fingerprint) :=
  let registered := tracker.registry.register stage handle bytecode
  let tracker := { tracker with registry := registered.state }
  match registered.answer with
  | .ok fingerprint => ⟨.ok fingerprint, tracker, registered.events⟩
  | .error err =>
    let rejected := tracker.rejectBytecode stage handle err
    { rejected with events := registered.events ++ rejected.events }

/-- A host created a shader and hands over its bytecode. -/
def shaderCreated (tracker : Tracker) (raw : RawStage) (bytecode : List UInt8) (handle : Handle) :
    Outcome Tracker (Except CallError Fingerprint) :=
  tracker.onStage raw .error fun stage => tracker.register stage handle bytecode

/-- A host created a shader and hands over its tokens without their number; `none` is a null
pointer. -/
def shaderCreatedFromWords (tracker : Tracker) (raw : RawStage) (words : Option (List UInt32))
    (handle : Handle) : Outcome Tracker (Except CallError Fingerprint) :=
  tracker.onStage raw .error fun stage =>
    match streamOfWords words tracker.configuration.bytecodeLimit.toNat with
    | .ok bytecode => tracker.register stage handle bytecode
    | .error err => tracker.rejectBytecode stage handle err

/-- Lets a handle stand for a fingerprint that was worked out elsewhere. -/
def assign (tracker : Tracker) (stage : Stage) (handle : Handle) (fingerprint : Fingerprint) :
    Outcome Tracker Unit :=
  let assigned := tracker.registry.assign stage handle fingerprint
  ⟨(), { tracker with registry := assigned.state }, assigned.events⟩

def bind (tracker : Tracker) (stage : Stage) (handle : Handle) : Outcome Tracker Unit where
  answer := ()
  state := { tracker with bindings := tracker.bindings.bind tracker.registry stage handle }
  events := match tracker.registry.fingerprint? stage handle with
    | some _ => []
    | none => [.boundUnhashed stage handle]

def shaderBound (tracker : Tracker) (raw : RawStage) (handle : Handle) : Outcome Tracker Unit :=
  tracker.onStage raw (fun _ => ()) fun stage => tracker.bind stage handle

/-- A host destroyed a shader. It is bound no longer, and its handle may come to stand for
another. -/
def shaderDestroyed (tracker : Tracker) (raw : RawStage) (handle : Handle) :
    Outcome Tracker Unit :=
  tracker.onStage raw (fun _ => ()) fun stage =>
    let bindings :=
      if tracker.bindings.current.get stage = some handle then tracker.bindings.unbind stage
      else tracker.bindings
    ⟨(), { tracker with bindings, registry := tracker.registry.forget stage handle }, []⟩

/-- Keeps an upload under the fingerprint bound on the stage, or under `Fingerprint.unbound` when
nothing is. An upload to the register of the world matrix marks the profile that is bound. -/
def recordUpload (tracker : Tracker) (stage : Stage) (kind : ConstantKind) (start count : UInt32)
    (data : List UInt32) : Outcome Tracker (Except CallError Unit) :=
  let bound := tracker.bound? stage
  match tracker.constants.record kind (bound.getD .unbound) start count data with
  | .error err => ⟨.error (.shortData err), tracker, []⟩
  | .ok constants =>
    let mark (profile : Profile) : Profile := { profile with bindsWorldMatrix := true }
    let registry := match bound with
      | some fingerprint =>
        if stage = .vertex ∧ start = worldMatrixRegister then
          tracker.registry.modify stage fingerprint mark
        else tracker.registry
      | none => tracker.registry
    ⟨.ok (), { tracker with constants, registry }, []⟩

def constantsUploaded (tracker : Tracker) (raw : RawStage) (kind : ConstantKind)
    (start count : UInt32) (data : List UInt32) : Outcome Tracker Unit :=
  tracker.onStage raw (fun _ => ()) fun stage =>
    let recorded := tracker.recordUpload stage kind start count data
    let dropped := match recorded.answer with
      | .ok () => []
      | .error err => [.uploadDropped stage kind start count err]
    ⟨(), recorded.state, recorded.events ++ dropped⟩

def endPeriod (tracker : Tracker) : Tracker :=
  { tracker with bindings := tracker.bindings.endPeriod }

/-- Loads the profiles from the files, or keeps them as they are and gives `none`. -/
def load (tracker : Tracker) (files : FileTree) : Outcome Tracker (Option LoadReport) :=
  let loaded := tracker.configuration.archive.load files tracker.registry
  let tracker := { tracker with registry := loaded.state }
  match loaded.answer with
  | .ok report => ⟨some report, tracker, loaded.events⟩
  | .error err => ⟨none, tracker, loaded.events ++ [.loadFailed err]⟩

/-- Saves the profiles to the files, which are the state that changes. -/
def save (tracker : Tracker) (files : FileTree) : Outcome FileTree (Except ArchiveError Unit) :=
  let saved := tracker.configuration.archive.save files tracker.registry
  match saved.answer with
  | .ok () => saved
  | .error err => { saved with events := saved.events ++ [.saveFailed err] }

/-- A new tracker with the profiles from the files. -/
def openWith (configuration : Configuration) (files : FileTree) :
    Outcome Tracker (Option LoadReport) :=
  (new configuration).load files

end Tracker

end ShaderIdentity
