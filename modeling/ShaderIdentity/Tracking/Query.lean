import ShaderIdentity.Tracking.Tracker

/-! Questions as data. None of them changes the tracker that is asked. -/
namespace ShaderIdentity

inductive Query where
  /-- What a handle stands for. -/
  | named (stage : Stage) (handle : Handle)
  | resolved (stage : Stage) (handle : Handle)
  | profile (stage : Stage) (fingerprint : Fingerprint)
  | profiles (stage : Stage)
  | boundHandle (stage : Stage)
  | boundFingerprint (stage : Stage)
  | boundProfile (stage : Stage)
  | isActivated
  | isFlagged (flags : Flags)
  | isWorldMatrixBound
  | isWatched (register : UInt32) (stage : Stage)
  | wasBound (fingerprint : Fingerprint) (stage : Stage)
  | isCurrent (fingerprint : Fingerprint) (stage : Stage)
  | isPreUi
  | constants (kind : ConstantKind) (fingerprint : Fingerprint)
  | constantAt (kind : ConstantKind) (fingerprint : Fingerprint) (start : UInt32)
  | configuration

inductive Answer where
  | fingerprint (fingerprint : Option Fingerprint)
  | profile (profile : Option Profile)
  | profiles (profiles : ProfileMap)
  | handle (handle : Option Handle)
  | truth (truth : Bool)
  | constants (constants : Option (List ConstantRecord))
  | constant (constant : Option ConstantRecord)
  | configuration (configuration : Configuration)

namespace Query

/-- The stage that a question is about alone. -/
def stage? : Query → Option Stage
  | .named stage _ | .resolved stage _ | .profile stage _ | .profiles stage | .boundHandle stage
  | .boundFingerprint stage | .boundProfile stage | .isWatched _ stage | .wasBound _ stage
  | .isCurrent _ stage => some stage
  | .isActivated | .isFlagged _ | .isWorldMatrixBound | .isPreUi | .constants .. | .constantAt ..
  | .configuration => none

end Query

namespace Tracker

def ask (tracker : Tracker) : Query → Answer
  | .named stage handle => .fingerprint (tracker.registry.fingerprint? stage handle)
  | .resolved stage handle => .profile (tracker.registry.resolve? stage handle)
  | .profile stage fingerprint => .profile (tracker.registry.profile? stage fingerprint)
  | .profiles stage => .profiles (tracker.registry.profiles.get stage)
  | .boundHandle stage => .handle (tracker.bindings.current.get stage)
  | .boundFingerprint stage => .fingerprint (tracker.bound? stage)
  | .boundProfile stage => .profile (tracker.bindings.profile? tracker.registry stage)
  | .isActivated => .truth (tracker.bindings.isActivated tracker.registry)
  | .isFlagged flags => .truth (tracker.bindings.isFlagged tracker.registry flags)
  | .isWorldMatrixBound => .truth (tracker.bindings.isWorldMatrixBound tracker.registry)
  | .isWatched register stage =>
    .truth (tracker.bindings.isWatched tracker.registry register stage)
  | .wasBound fingerprint stage => .truth (tracker.bindings.wasBound fingerprint stage)
  | .isCurrent fingerprint stage =>
    .truth (tracker.bindings.isCurrent tracker.registry fingerprint stage)
  | .isPreUi => .truth tracker.bindings.preUi
  | .constants kind fingerprint => .constants (tracker.constants.get? kind fingerprint)
  | .constantAt kind fingerprint start =>
    .constant (tracker.constants.recordAt? kind fingerprint start)
  | .configuration => .configuration tracker.configuration

end Tracker

end ShaderIdentity
