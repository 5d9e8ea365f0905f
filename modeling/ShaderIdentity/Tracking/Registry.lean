import ShaderIdentity.Tracking.Outcome

/-! Which live handle stands for which fingerprint, and the profile of each fingerprint, for each
stage. Profiles outlive the handles that led to them. -/
namespace ShaderIdentity

structure Registry where
  profiles : PerStage ProfileMap
  handles : PerStage (Std.ExtTreeMap Handle Fingerprint)
  /-- Bytecode is looked at for its end token up to this many bytes. -/
  bytecodeLimit : Nat
  deriving DecidableEq

namespace Registry

def empty (bytecodeLimit : Nat) : Registry :=
  ⟨.both ∅, .both ∅, bytecodeLimit⟩

def fingerprint? (registry : Registry) (stage : Stage) (handle : Handle) : Option Fingerprint :=
  (registry.handles.get stage)[handle]?

def profile? (registry : Registry) (stage : Stage) (fingerprint : Fingerprint) : Option Profile :=
  (registry.profiles.get stage)[fingerprint]?

/-- The profile of the shader that a handle stands for. -/
def resolve? (registry : Registry) (stage : Stage) (handle : Handle) : Option Profile := do
  registry.profile? stage (← registry.fingerprint? stage handle)

/-- Lets a handle stand for a fingerprint, which gets an initial profile if it has none. -/
def assign (registry : Registry) (stage : Stage) (handle : Handle) (fingerprint : Fingerprint) :
    Outcome Registry Unit where
  answer := ()
  state := { registry with
    profiles := registry.profiles.update stage (·.insertIfNew fingerprint .initial)
    handles := registry.handles.update stage (·.insert handle fingerprint) }
  events :=
    let created := match registry.profile? stage fingerprint with
      | some _ => []
      | none => [.newProfile stage fingerprint]
    let moved := match registry.fingerprint? stage handle with
      | some previous =>
        if previous = fingerprint then []
        else [.reregistered stage handle previous fingerprint]
      | none => []
    created ++ moved

/-- Lets a handle stand for the fingerprint of its bytecode. -/
def register (registry : Registry) (stage : Stage) (handle : Handle) (bytecode : List UInt8) :
    Outcome Registry (Except BytecodeError Fingerprint) :=
  match Fingerprint.ofBytes bytecode registry.bytecodeLimit with
  | .ok fingerprint =>
    let assigned := registry.assign stage handle fingerprint
    ⟨.ok fingerprint, assigned.state, assigned.events⟩
  | .error err => ⟨.error err, registry, []⟩

/-- The handle stands for nothing any more. The profile is kept. -/
def forget (registry : Registry) (stage : Stage) (handle : Handle) : Registry :=
  { registry with handles := registry.handles.update stage (·.erase handle) }

/-- Gives a fingerprint an initial profile if it has none. -/
def ensure (registry : Registry) (stage : Stage) (fingerprint : Fingerprint) : Registry :=
  { registry with profiles := registry.profiles.update stage (·.insertIfNew fingerprint .initial) }

def insert (registry : Registry) (stage : Stage) (fingerprint : Fingerprint) (profile : Profile) :
    Registry :=
  { registry with profiles := registry.profiles.update stage (·.insert fingerprint profile) }

def remove (registry : Registry) (stage : Stage) (fingerprint : Fingerprint) : Registry :=
  { registry with profiles := registry.profiles.update stage (·.erase fingerprint) }

/-- Changes a profile if there is one. -/
def modify (registry : Registry) (stage : Stage) (fingerprint : Fingerprint)
    (change : Profile → Profile) : Registry :=
  { registry with profiles := registry.profiles.update stage (·.modify fingerprint change) }

end Registry

end ShaderIdentity
