import ShaderIdentity.Tracking.Registry

/-! The handle bound on each stage, and what was bound in the current period, usually a frame.
Handles are resolved when a question is asked, so a change to a profile shows at once, and a
handle that was never hashed resolves to nothing. -/
namespace ShaderIdentity

structure Bindings where
  current : PerStage (Option Handle)
  /-- The fingerprints are those at the time of binding. What happens to a handle later does not
  change them. -/
  seen : PerStage (Std.ExtTreeSet Fingerprint)
  /-- A shader of the UI pass was bound in this period. -/
  preUi : Bool
  deriving DecidableEq

namespace Bindings

def empty : Bindings := ⟨.both none, .both ∅, false⟩

variable (bindings : Bindings) (registry : Registry)

def fingerprint? (stage : Stage) : Option Fingerprint := do
  registry.fingerprint? stage (← bindings.current.get stage)

def profile? (stage : Stage) : Option Profile := do
  registry.resolve? stage (← bindings.current.get stage)

/-- The profiles bound now; a stage where nothing resolves has none. -/
def profiles : List Profile :=
  Stage.all.filterMap (bindings.profile? registry)

/-- No bound profile is deactivated. -/
def isActivated : Bool :=
  (bindings.profiles registry).all (·.activated)

/-- Some bound profile has one of the flags. -/
def isFlagged (flags : Flags) : Bool :=
  (bindings.profiles registry).any (·.flags.intersects flags)

def isWorldMatrixBound : Bool :=
  (bindings.profiles registry).any (·.bindsWorldMatrix)

def isWatched (register : UInt32) (stage : Stage) : Bool :=
  (bindings.profile? registry stage).any (·.watches stage register)

/-- Whether the fingerprint is bound now. -/
def isCurrent (fingerprint : Fingerprint) (stage : Stage) : Bool :=
  bindings.fingerprint? registry stage = some fingerprint

/-- Whether the fingerprint was bound in this period. -/
def wasBound (fingerprint : Fingerprint) (stage : Stage) : Bool :=
  (bindings.seen.get stage).contains fingerprint

/-- Binds a handle. The UI pass begins when, after this, either stage has a shader of it. -/
def bind (stage : Stage) (handle : Handle) : Bindings :=
  let seen := match registry.fingerprint? stage handle with
    | some fingerprint => bindings.seen.update stage (·.insert fingerprint)
    | none => bindings.seen
  let bound : Bindings := { bindings with current := bindings.current.set stage (some handle), seen }
  { bound with preUi := bound.preUi || bound.isFlagged registry .uiHook }

def unbind (stage : Stage) : Bindings :=
  { bindings with current := bindings.current.set stage none }

/-- Begins a new period. What is bound stays bound. -/
def endPeriod : Bindings :=
  { bindings with seen := .both ∅, preUi := false }

end Bindings

end ShaderIdentity
