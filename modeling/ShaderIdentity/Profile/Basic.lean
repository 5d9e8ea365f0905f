import ShaderIdentity.Shader.Stage
import ShaderIdentity.Shader.Fingerprint
import Std.Data.ExtTreeMap
import Std.Data.ExtTreeSet

/-! What is known of a shader and wanted of it. -/
namespace ShaderIdentity

/-- A set of behaviours. Bits without a name are kept, so that documents written by newer programs
lose nothing. -/
structure Flags where
  bits : UInt32
  deriving DecidableEq, Repr

namespace Flags

def empty : Flags := ⟨0⟩

/-- Draws with the shader belong to the UI pass or come just before it. -/
def uiHook : Flags := ⟨1⟩

/-- Whether the sets share a bit. -/
def intersects (a b : Flags) : Bool :=
  a.bits &&& b.bits ≠ 0

end Flags

abbrev RegisterSet := Std.ExtTreeSet UInt32

/-- A host uploads the world transform to this register of the vertex stage. -/
def worldMatrixRegister : UInt32 := 195

structure Profile where
  activated : Bool
  flags : Flags
  watched : PerStage RegisterSet
  /-- A world matrix was uploaded while the shader was bound. This is never written to a
  document. -/
  bindsWorldMatrix : Bool
  deriving DecidableEq

namespace Profile

/-- The profile of a shader of which nothing is known yet. -/
def initial : Profile := ⟨true, .empty, .both ∅, false⟩

def watches (profile : Profile) (stage : Stage) (register : UInt32) : Bool :=
  (profile.watched.get stage).contains register

def watchAlso (profile : Profile) (stage : Stage) (registers : RegisterSet) : Profile :=
  { profile with watched := profile.watched.update stage (· ∪ registers) }

/-- A change to a profile by hand; what is not given stays. -/
structure Edit where
  activated : Option Bool
  flags : Option Flags
  vertexWatched : Option RegisterSet
  pixelWatched : Option RegisterSet
  bindsWorldMatrix : Option Bool
  deriving DecidableEq

def Edit.apply (edit : Edit) (profile : Profile) : Profile where
  activated := edit.activated.getD profile.activated
  flags := edit.flags.getD profile.flags
  watched := ⟨edit.vertexWatched.getD profile.watched.vertex,
    edit.pixelWatched.getD profile.watched.pixel⟩
  bindsWorldMatrix := edit.bindsWorldMatrix.getD profile.bindsWorldMatrix

end Profile

/-- The profiles of one stage. -/
abbrev ProfileMap := Std.ExtTreeMap Fingerprint Profile

end ShaderIdentity
