import ShaderIdentity.Files.Tree
import ShaderIdentity.Profile.Document
import ShaderIdentity.Tracking.ConstantShadow

/-! Why calls are refused, and why profiles are not loaded or saved. -/
namespace ShaderIdentity

inductive CallError where
  | unsupportedStage (raw : RawStage)
  | bytecode (err : BytecodeError)
  | shortData (err : ShortData)
  deriving DecidableEq, Repr

def CallError.message : CallError → String
  | .unsupportedStage raw => s!"unsupported shader stage {raw.text}"
  | .bytecode err => s!"shader rejected: {err.message}"
  | .shortData err => err.message

inductive ArchiveError where
  | file (err : FileError)
  | document (rejection : Document.Rejection)
  deriving DecidableEq, Repr

/-- What went wrong with a file is left to the host to say. -/
def ArchiveError.message : ArchiveError → String
  | .file _ => "profile i/o error"
  | .document rejection => rejection.message

end ShaderIdentity
