import ShaderIdentity.Tracking.Refusal
import ShaderIdentity.Shader.Handle

/-! What is reported while shaders are tracked: events with their levels, messages and fields. -/
namespace ShaderIdentity

inductive Level where
  | debug
  | warn
  | error
  deriving DecidableEq, Repr

inductive Event where
  | newProfile (stage : Stage) (fingerprint : Fingerprint)
  | reregistered (stage : Stage) (handle : Handle) (previous fingerprint : Fingerprint)
  | bytecodeRejected (stage : Stage) (handle : Handle) (err : BytecodeError)
  | boundUnhashed (stage : Stage) (handle : Handle)
  | callIgnored (err : CallError)
  | uploadDropped (stage : Stage) (kind : ConstantKind) (start count : UInt32) (err : CallError)
  | documentMissing
  | entrySkipped (issue : Document.Issue)
  | listingUnreadable (err : FileError)
  | loaded (entries skipped listings : Nat)
  | saved
  | loadFailed (err : ArchiveError)
  | saveFailed (err : ArchiveError)

namespace Event

def level : Event → Level
  | .newProfile .. | .reregistered .. | .documentMissing | .listingUnreadable .. | .loaded ..
  | .saved => .debug
  | .boundUnhashed .. | .entrySkipped .. => .warn
  | .bytecodeRejected .. | .callIgnored .. | .uploadDropped .. | .loadFailed ..
  | .saveFailed .. => .error

def message : Event → String
  | .newProfile .. => "new shader profile"
  | .reregistered .. => "shader handle re-registered"
  | .bytecodeRejected .. => "rejecting shader bytecode"
  | .boundUnhashed .. => "binding a shader handle that was never hashed"
  | .callIgnored .. => "ignoring shader call"
  | .uploadDropped .. => "dropping constant upload"
  | .documentMissing => "no shader profile file"
  | .entrySkipped .. => "skipping shader profile entry"
  | .listingUnreadable .. => "unreadable shader disassembly"
  | .loaded .. => "loaded shader profiles"
  | .saved => "saved shader profiles"
  | .loadFailed .. => "failed to load shader profiles"
  | .saveFailed .. => "failed to save shader profiles"

/-- The fields in order. A field without a text is one that the host fills in. -/
def fields : Event → List (String × Option String)
  | .newProfile stage fingerprint =>
    [("stage", some stage.name), ("hash", some fingerprint.text)]
  | .reregistered stage handle previous fingerprint =>
    [("stage", some stage.name), ("handle", some handle.text),
      ("previous", some previous.text), ("hash", some fingerprint.text)]
  | .bytecodeRejected stage handle err =>
    [("stage", some stage.name), ("handle", some handle.text), ("err", some err.message)]
  | .boundUnhashed stage handle =>
    [("stage", some stage.name), ("handle", some handle.text)]
  | .callIgnored err => [("err", some err.message)]
  | .uploadDropped stage kind start count err =>
    [("stage", some stage.name), ("kind", some kind.name), ("start_register", some (toString start)),
      ("vec4_count", some (toString count)), ("err", some err.message)]
  | .documentMissing | .saved => []
  | .entrySkipped issue =>
    [("section", some issue.place.name), ("key", some (issue.key.getD "-")),
      ("reason", some issue.reason.message)]
  | .listingUnreadable _ => [("err", none)]
  | .loaded entries skipped listings =>
    [("entries", some (toString entries)), ("skipped", some (toString skipped)),
      ("dumps_scanned", some (toString listings))]
  | .loadFailed err | .saveFailed err => [("err", some err.message)]

end Event

end ShaderIdentity
