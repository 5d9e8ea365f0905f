import Mathlib.Logic.Equiv.Basic
import ShaderIdentity.Proofs.Tracking.Identity
import ShaderIdentity.Proofs.Tracking.Transcript
import ShaderIdentity.Tracking.Query

/-! Handles are opaque. A host could have given other handles to its shaders, each stage on its own,
and would have been told the same. -/
namespace ShaderIdentity

/-- Other handles for those of each stage. -/
abbrev Renaming := PerStage (Equiv.Perm Handle)

/-- The other handle on the stage that a host means. A handle on no stage stays. -/
def Renaming.onRaw (names : Renaming) (raw : RawStage) (handle : Handle) : Handle :=
  match raw.stage? with
  | some stage => names.get stage handle
  | none => handle

namespace Call

def rename (names : Renaming) : Call → Call
  | .created raw bytecode handle => .created raw bytecode (names.onRaw raw handle)
  | .createdFromWords raw words handle => .createdFromWords raw words (names.onRaw raw handle)
  | .register stage handle bytecode => .register stage (names.get stage handle) bytecode
  | .assign stage handle fingerprint => .assign stage (names.get stage handle) fingerprint
  | .bound raw handle => .bound raw (names.onRaw raw handle)
  | .bind stage handle => .bind stage (names.get stage handle)
  | .destroyed raw handle => .destroyed raw (names.onRaw raw handle)
  | other => other

end Call

namespace Event

/-- Only the handles in it are others. -/
def rename (names : Renaming) : Event → Event
  | .reregistered stage handle previous fingerprint =>
    .reregistered stage (names.get stage handle) previous fingerprint
  | .bytecodeRejected stage handle err => .bytecodeRejected stage (names.get stage handle) err
  | .boundUnhashed stage handle => .boundUnhashed stage (names.get stage handle)
  | other => other

theorem rename_of_reports (names : Renaming) {event : Event} (reports : Archive.Reports event) :
    event.rename names = event := by
  cases event with
  | documentMissing | entrySkipped | listingUnreadable | loaded => rfl
  | _ => cases reports

/-- The level, the message and all fields but those of handles stay. -/
theorem rename_shown (names : Renaming) (event : Event) :
    (event.rename names).level = event.level ∧
      (event.rename names).message = event.message ∧
      (event.rename names).fields.filter (·.1 ≠ "handle") =
        event.fields.filter (·.1 ≠ "handle") := by
  cases event with
  | reregistered | bytecodeRejected | boundUnhashed =>
    refine ⟨rfl, rfl, ?_⟩
    simp only [rename, fields, List.filter_cons, ne_eq, not_true_eq_false, decide_false,
      Bool.false_eq_true, if_false]
  | _ => exact ⟨rfl, rfl, rfl⟩

end Event

def Query.rename (names : Renaming) : Query → Query
  | .named stage handle => .named stage (names.get stage handle)
  | .resolved stage handle => .resolved stage (names.get stage handle)
  | other => other

namespace Registry

/-- The same registry for other handles. -/
structure Renamed (names : Renaming) (registry other : Registry) : Prop where
  profiles : other.profiles = registry.profiles
  limit : other.bytecodeLimit = registry.bytecodeLimit
  named : ∀ stage handle,
    other.fingerprint? stage (names.get stage handle) = registry.fingerprint? stage handle

variable {names : Renaming} {registry other : Registry}

theorem Renamed.profile?_eq (same : Renamed names registry other) (stage : Stage)
    (fingerprint : Fingerprint) :
    other.profile? stage fingerprint = registry.profile? stage fingerprint := by
  rw [Registry.profile?, same.profiles]
  rfl

theorem Renamed.resolve?_eq (same : Renamed names registry other) (stage : Stage)
    (handle : Handle) :
    other.resolve? stage (names.get stage handle) = registry.resolve? stage handle := by
  have profiles : other.profile? stage = registry.profile? stage := funext (same.profile?_eq stage)
  rw [resolve?, resolve?, same.named, profiles]

theorem same_handle_iff {stage shown : Stage} {handle given : Handle} :
    shown = stage ∧ names.get shown given = names.get stage handle ↔
      shown = stage ∧ given = handle := by
  constructor
  · rintro ⟨rfl, named⟩
    exact ⟨rfl, (names.get shown).injective named⟩
  · rintro ⟨rfl, rfl⟩
    exact ⟨rfl, rfl⟩

theorem assign_renamed (same : Renamed names registry other) (stage : Stage) (handle : Handle)
    (fingerprint : Fingerprint) :
    (registry.assign stage handle fingerprint).Matches (Renamed names) (Event.rename names)
      (other.assign stage (names.get stage handle) fingerprint) := by
  constructor
  case answer => rfl
  case state =>
    constructor
    case profiles => simp only [assign, same.profiles]
    case limit => exact same.limit
    case named =>
      intro shown given
      simp only [fingerprint?_assign, same_handle_iff, same.named]
  case events =>
    simp only [assign, same.profile?_eq, same.named, List.map_append]
    congr 1
    · split <;> rfl
    · split
      · split <;> rfl
      · rfl

theorem forget_renamed (same : Renamed names registry other) (stage : Stage) (handle : Handle) :
    Renamed names (registry.forget stage handle)
      (other.forget stage (names.get stage handle)) := by
  constructor
  case profiles => exact same.profiles
  case limit => exact same.limit
  case named =>
    intro shown given
    simp only [fingerprint?_forget, same_handle_iff, same.named]

/-- Whatever happens to the profiles alone happens for other handles too. -/
theorem Renamed.withProfiles (same : Renamed names registry other)
    (change : PerStage ProfileMap → PerStage ProfileMap) :
    Renamed names { registry with profiles := change registry.profiles }
      { other with profiles := change other.profiles } :=
  ⟨congrArg change same.profiles, same.limit, same.named⟩

theorem load_renamed (same : Renamed names registry other) (archive : Archive)
    (files : FileTree) :
    Renamed names (archive.load files registry).state (archive.load files other).state := by
  obtain ⟨-, profiles, -⟩ := @Archive.load_congr archive files registry other same.profiles
  obtain ⟨handles, limit⟩ := @Archive.load_handles archive files registry
  obtain ⟨handles', limit'⟩ := @Archive.load_handles archive files other
  constructor
  case profiles => exact profiles
  case limit => rw [limit, limit', same.limit]
  case named =>
    intro stage handle
    rw [fingerprint?, fingerprint?, handles, handles']
    exact same.named stage handle

end Registry

namespace Bindings

/-- The same bindings for other handles. -/
structure Renamed (names : Renaming) (bindings other : Bindings) : Prop where
  current : ∀ stage,
    other.current.get stage = (bindings.current.get stage).map (names.get stage)
  seen : other.seen = bindings.seen
  preUi : other.preUi = bindings.preUi

section
variable {names : Renaming} {bindings other : Bindings} {registry registry' : Registry}

theorem fingerprint?_renamed (same : Renamed names bindings other)
    (registries : registry.Renamed names registry') (stage : Stage) :
    other.fingerprint? registry' stage = bindings.fingerprint? registry stage := by
  rw [fingerprint?_eq_bind, fingerprint?_eq_bind, same.current, Option.bind_map]
  congr 1
  exact funext (registries.named stage)

theorem profile?_renamed (same : Renamed names bindings other)
    (registries : registry.Renamed names registry') (stage : Stage) :
    other.profile? registry' stage = bindings.profile? registry stage := by
  have profiles : registry'.profile? stage = registry.profile? stage :=
    funext (registries.profile?_eq stage)
  rw [profile?_eq_bind, profile?_eq_bind, fingerprint?_renamed same registries, profiles]

theorem profiles_renamed (same : Renamed names bindings other)
    (registries : registry.Renamed names registry') :
    other.profiles registry' = bindings.profiles registry := by
  have each : other.profile? registry' = bindings.profile? registry :=
    funext (profile?_renamed same registries)
  rw [profiles, profiles, each]

theorem isFlagged_renamed (same : Renamed names bindings other)
    (registries : registry.Renamed names registry') (flags : Flags) :
    other.isFlagged registry' flags = bindings.isFlagged registry flags := by
  rw [isFlagged, isFlagged, profiles_renamed same registries]

theorem Renamed.select (same : Renamed names bindings other) (stage : Stage) (handle : Handle)
    (seen : PerStage (Std.ExtTreeSet Fingerprint)) :
    Renamed names ⟨bindings.current.set stage (some handle), seen, bindings.preUi⟩
      ⟨other.current.set stage (some (names.get stage handle)), seen, other.preUi⟩ := by
  refine ⟨fun shown => ?_, rfl, same.preUi⟩
  simp only [PerStage.get_set]
  split
  · subst shown
    rfl
  · exact same.current shown

theorem bind_renamed (same : Renamed names bindings other)
    (registries : registry.Renamed names registry') (stage : Stage) (handle : Handle) :
    Renamed names (bindings.bind registry stage handle)
      (other.bind registry' stage (names.get stage handle)) := by
  simp only [bind, registries.named, same.seen]
  have selected := same.select stage handle
  exact ⟨(selected bindings.seen).current, rfl,
    congrArg₂ (· || ·) same.preUi (isFlagged_renamed (selected _) registries .uiHook)⟩

theorem unbind_renamed (same : Renamed names bindings other) (stage : Stage) :
    Renamed names (bindings.unbind stage) (other.unbind stage) := by
  constructor
  case current =>
    intro shown
    simp only [unbind, PerStage.get_set]
    split
    · rfl
    · exact same.current shown
  case seen => exact same.seen
  case preUi => exact same.preUi

end

end Bindings

namespace Tracker

/-- The same tracker for other handles. -/
structure Renamed (names : Renaming) (tracker other : Tracker) : Prop where
  registry : tracker.registry.Renamed names other.registry
  bindings : tracker.bindings.Renamed names other.bindings
  constants : other.constants = tracker.constants
  configuration : other.configuration = tracker.configuration

section
variable {names : Renaming} {tracker other : Tracker}

theorem Renamed.bound?_eq (same : Renamed names tracker other) (stage : Stage) :
    other.bound? stage = tracker.bound? stage :=
  Bindings.fingerprint?_renamed same.bindings same.registry stage

/-! ## Questions -/

/-- A question about other handles has the answer that it had for the first ones. -/
theorem ask_renamed (same : Renamed names tracker other) {query : Query}
    (answered : ∀ stage, query ≠ .boundHandle stage) :
    other.ask (query.rename names) = tracker.ask query := by
  have profiles := Bindings.profiles_renamed same.bindings same.registry
  have profile := Bindings.profile?_renamed same.bindings same.registry
  cases query with
  | named stage handle => exact congrArg Answer.fingerprint (same.registry.named stage handle)
  | resolved stage handle => exact congrArg Answer.profile (same.registry.resolve?_eq stage handle)
  | profile stage fingerprint =>
    exact congrArg Answer.profile (same.registry.profile?_eq stage fingerprint)
  | profiles stage => exact congrArg (Answer.profiles <| ·.get stage) same.registry.profiles
  | boundHandle stage => exact absurd rfl (answered stage)
  | boundFingerprint stage => exact congrArg Answer.fingerprint (same.bound?_eq stage)
  | boundProfile stage => exact congrArg Answer.profile (profile stage)
  | isActivated => exact congrArg (Answer.truth <| ·.all (·.activated)) profiles
  | isFlagged flags => exact congrArg (Answer.truth <| ·.any (·.flags.intersects flags)) profiles
  | isWorldMatrixBound => exact congrArg (Answer.truth <| ·.any (·.bindsWorldMatrix)) profiles
  | isWatched register stage =>
    exact congrArg (Answer.truth <| ·.any (·.watches stage register)) (profile stage)
  | wasBound fingerprint stage =>
    exact congrArg (fun seen => Answer.truth ((seen.get stage).contains fingerprint))
      same.bindings.seen
  | isCurrent fingerprint stage =>
    exact congrArg (fun bound => Answer.truth (bound = some fingerprint)) (same.bound?_eq stage)
  | isPreUi => exact congrArg Answer.truth same.bindings.preUi
  | constants kind fingerprint =>
    exact congrArg (fun shadow => Answer.constants (shadow.get? kind fingerprint)) same.constants
  | constantAt kind fingerprint start =>
    exact congrArg (fun shadow => Answer.constant (shadow.recordAt? kind fingerprint start))
      same.constants
  | configuration => exact congrArg Answer.configuration same.configuration

/-! ## Calls -/

/-- For other handles a step gives the same answer, reports the same up to the handles, and leaves
the same. -/
abbrev Follows {α : Type} (names : Renaming) (first second : Outcome Tracker α) : Prop :=
  first.Matches (Renamed names) (Event.rename names) second

theorem Renamed.withRegistry (same : Renamed names tracker other) {registry registry' : Registry}
    (registries : registry.Renamed names registry') :
    Renamed names { tracker with registry } { other with registry := registry' } :=
  ⟨registries, same.bindings, same.constants, same.configuration⟩

theorem rejectBytecode_renamed (same : Renamed names tracker other) (stage : Stage)
    (handle : Handle) (err : BytecodeError) :
    Follows names (tracker.rejectBytecode stage handle err)
      (other.rejectBytecode stage (names.get stage handle) err) :=
  ⟨rfl, same, rfl⟩

theorem assign_renamed (same : Renamed names tracker other) (stage : Stage) (handle : Handle)
    (fingerprint : Fingerprint) :
    Follows names (tracker.assign stage handle fingerprint)
      (other.assign stage (names.get stage handle) fingerprint) := by
  have assigned := Registry.assign_renamed same.registry stage handle fingerprint
  exact ⟨rfl, same.withRegistry assigned.state, assigned.events⟩

theorem register_renamed (same : Renamed names tracker other) (stage : Stage) (handle : Handle)
    (bytecode : List UInt8) :
    Follows names (tracker.register stage handle bytecode)
      (other.register stage (names.get stage handle) bytecode) := by
  rw [register_eq, register_eq, same.registry.limit]
  cases Fingerprint.ofBytes bytecode tracker.registry.bytecodeLimit with
  | error err => exact rejectBytecode_renamed same stage handle err
  | ok fingerprint => exact (assign_renamed same stage handle fingerprint).mapAnswer _

theorem bind_renamed (same : Renamed names tracker other) (stage : Stage) (handle : Handle) :
    Follows names (tracker.bind stage handle) (other.bind stage (names.get stage handle)) := by
  constructor
  case answer => rfl
  case state =>
    exact ⟨same.registry, Bindings.bind_renamed same.bindings same.registry stage handle,
      same.constants, same.configuration⟩
  case events =>
    simp only [bind, same.registry.named]
    split <;> rfl

theorem onRaw_of_stage? {raw : RawStage} {stage : Stage} (shown : raw.stage? = some stage)
    (handle : Handle) : names.onRaw raw handle = names.get stage handle := by
  rw [Renaming.onRaw, shown]

theorem created_renamed (same : Renamed names tracker other) (raw : RawStage)
    (bytecode : List UInt8) (handle : Handle) :
    Follows names (tracker.shaderCreated raw bytecode handle)
      (other.shaderCreated raw bytecode (names.onRaw raw handle)) := by
  refine onStage_matches same (fun _ => rfl) fun stage shown => ?_
  rw [onRaw_of_stage? shown]
  exact register_renamed same stage handle bytecode

theorem createdFromWords_renamed (same : Renamed names tracker other) (raw : RawStage)
    (words : Option (List UInt32)) (handle : Handle) :
    Follows names (tracker.shaderCreatedFromWords raw words handle)
      (other.shaderCreatedFromWords raw words (names.onRaw raw handle)) := by
  refine onStage_matches same (fun _ => rfl) fun stage shown => ?_
  rw [onRaw_of_stage? shown, same.configuration]
  cases streamOfWords words tracker.configuration.bytecodeLimit.toNat with
  | ok bytecode => exact register_renamed same stage handle bytecode
  | error err => exact rejectBytecode_renamed same stage handle err

theorem shaderBound_renamed (same : Renamed names tracker other) (raw : RawStage)
    (handle : Handle) :
    Follows names (tracker.shaderBound raw handle)
      (other.shaderBound raw (names.onRaw raw handle)) := by
  refine onStage_matches same (fun _ => rfl) fun stage shown => ?_
  rw [onRaw_of_stage? shown]
  exact bind_renamed same stage handle

theorem current_renamed_iff (same : Renamed names tracker other) (stage : Stage) (handle : Handle) :
    other.bindings.current.get stage = some (names.get stage handle) ↔
      tracker.bindings.current.get stage = some handle := by
  rw [same.bindings.current]
  exact Option.map_injective (names.get stage).injective |>.eq_iff' rfl

theorem destroyed_renamed (same : Renamed names tracker other) (raw : RawStage) (handle : Handle) :
    Follows names (tracker.shaderDestroyed raw handle)
      (other.shaderDestroyed raw (names.onRaw raw handle)) := by
  refine onStage_matches same (fun _ => rfl) fun stage shown => ?_
  rw [onRaw_of_stage? shown]
  refine ⟨rfl, ⟨Registry.forget_renamed same.registry stage handle, ?_, same.constants,
    same.configuration⟩, rfl⟩
  simp only [current_renamed_iff same]
  split
  · exact Bindings.unbind_renamed same.bindings stage
  · exact same.bindings

theorem marked_renamed (same : Renamed names tracker other) (upload : Upload) :
    (tracker.marked upload).Renamed names (other.marked upload) := by
  unfold marked
  rw [same.bound?_eq]
  split
  · split
    · exact same.registry.withProfiles (·.update _ (·.modify _ _))
    · exact same.registry
  · exact same.registry

theorem recordUpload_renamed (same : Renamed names tracker other) (stage : Stage)
    (kind : ConstantKind) (start count : UInt32) (data : List UInt32) :
    Follows names (tracker.recordUpload stage kind start count data)
      (other.recordUpload stage kind start count data) := by
  let upload : Upload := ⟨stage, kind, start, count, data⟩
  have again : other.recorded upload = tracker.recorded upload := by
    rw [Tracker.recorded, same.constants, same.bound?_eq]
    rfl
  change Follows names (tracker.keep upload) (other.keep upload)
  cases recorded : tracker.recorded upload with
  | error err =>
    rw [tracker.keep_short recorded, other.keep_short (again.trans recorded)]
    exact ⟨rfl, same, rfl⟩
  | ok constants =>
    rw [tracker.keep_recorded recorded, other.keep_recorded (again.trans recorded)]
    exact ⟨rfl, ⟨marked_renamed same upload, same.bindings, rfl, same.configuration⟩, rfl⟩

theorem load_renamed (same : Renamed names tracker other) (files : FileTree) :
    Follows names (tracker.load files) (other.load files) := by
  let archive := tracker.configuration.archive
  obtain ⟨answers, -, events⟩ := archive.load_congr tracker.registry same.registry.profiles
  have plain : (archive.load files tracker.registry).events.map (Event.rename names) =
      (archive.load files tracker.registry).events := by
    refine (List.map_congr_left fun event mem => ?_).trans (List.map_id _)
    exact Event.rename_of_reports names (archive.load_reports tracker.registry event mem)
  have left := Registry.load_renamed same.registry archive files
  unfold load
  rw [same.configuration]
  cases answered : (archive.load files tracker.registry).answer with
  | ok report =>
    rw [answered] at answers
    simp only [archive, answered, answers]
    exact ⟨rfl, ⟨left, same.bindings, same.constants, rfl⟩, events.trans plain.symm⟩
  | error err =>
    rw [answered] at answers
    simp only [archive, answered, answers]
    refine ⟨rfl, ⟨left, same.bindings, same.constants, rfl⟩, ?_⟩
    rw [List.map_append, events, plain]
    rfl

theorem save_renamed (same : Renamed names tracker other) (files : FileTree) :
    Follows names (tracker.perform (.save files)) (other.perform (.save files)) := by
  have saved : other.save files = tracker.save files := by
    unfold save Archive.save
    rw [same.configuration, same.registry.profiles]
  have plain : (tracker.save files).events.map (Event.rename names) =
      (tracker.save files).events := by
    cases done : Archive.replace files tracker.configuration.archive.path
      (Document.encode tracker.registry.profiles) with
    | mk after answer =>
      cases answer with
      | ok =>
        rw [tracker.save_replaced done]
        rfl
      | error err =>
        rw [tracker.save_failed done]
        rfl
  rw [perform_save, perform_save, saved]
  generalize tracker.save files = outcome at plain
  exact ⟨rfl, same, plain.symm⟩

theorem perform_renamed (same : Renamed names tracker other) (call : Call) :
    Follows names (tracker.perform call) (other.perform (call.rename names)) := by
  cases call with
  | created raw bytecode handle =>
    exact (created_renamed same raw bytecode handle).mapAnswer Reply.registered
  | createdFromWords raw words handle =>
    exact (createdFromWords_renamed same raw words handle).mapAnswer Reply.registered
  | register stage handle bytecode =>
    exact (register_renamed same stage handle bytecode).mapAnswer Reply.registered
  | assign stage handle fingerprint =>
    exact (assign_renamed same stage handle fingerprint).mapAnswer fun () => Reply.done
  | bound raw handle => exact (shaderBound_renamed same raw handle).mapAnswer fun () => Reply.done
  | bind stage handle => exact (bind_renamed same stage handle).mapAnswer fun () => Reply.done
  | destroyed raw handle => exact (destroyed_renamed same raw handle).mapAnswer fun () => Reply.done
  | uploaded raw kind start count data =>
    have uploaded : Follows names (tracker.constantsUploaded raw kind start count data)
        (other.constantsUploaded raw kind start count data) :=
      constantsUploaded_matches same (fun _ => rfl) (fun _ _ => rfl) fun stage _ =>
        recordUpload_renamed same stage kind start count data
    exact uploaded.mapAnswer fun () => Reply.done
  | recordUpload stage kind start count data =>
    exact (recordUpload_renamed same stage kind start count data).mapAnswer Reply.recorded
  | endPeriod =>
    refine ⟨rfl, ⟨same.registry, ?_, same.constants, same.configuration⟩, rfl⟩
    exact ⟨same.bindings.current, rfl, rfl⟩
  | edit stage fingerprint edit =>
    have edited := same.registry.withProfiles (·.update stage (·.modify fingerprint edit.apply))
    exact ⟨congrArg Reply.profile (edited.profile?_eq stage fingerprint),
      same.withRegistry edited, rfl⟩
  | insert stage fingerprint profile =>
    have inserted := same.registry.withProfiles (·.update stage (·.insert fingerprint profile))
    exact ⟨congrArg Reply.profile (same.registry.profile?_eq stage fingerprint),
      same.withRegistry inserted, rfl⟩
  | remove stage fingerprint =>
    have removed := same.registry.withProfiles (·.update stage (·.erase fingerprint))
    exact ⟨congrArg Reply.profile (same.registry.profile?_eq stage fingerprint),
      same.withRegistry removed, rfl⟩
  | load files => exact (load_renamed same files).mapAnswer Reply.loaded
  | save files => exact save_renamed same files

end

end Tracker

/-- The same action for other handles. What the host does to the registry by itself may depend on
handles too; it must then do the same to the same registry for other handles. -/
inductive Action.Renamed (names : Renaming) : Action → Action → Prop where
  | call (call : Call) : Renamed names (.call call) (.call (call.rename names))
  | amend {change other : Registry → Registry}
      (same : ∀ registry registry' : Registry, registry.Renamed names registry' →
        (change registry).Renamed names (other registry')) :
      Renamed names (.amend change) (.amend other)

namespace Tracker

theorem outcome_renamed {names : Renaming} {tracker other : Tracker}
    (same : Renamed names tracker other) {action action' : Action}
    (renamed : action.Renamed names action') :
    Follows names (tracker.outcome action) (other.outcome action') := by
  cases renamed with
  | call call => exact perform_renamed same call
  | amend changes => exact ⟨rfl, same.withRegistry (changes _ _ same.registry), rfl⟩

theorem new_renamed (names : Renaming) (configuration : Configuration) :
    Renamed names (new configuration) (new configuration) := by
  constructor
  case registry =>
    constructor
    case profiles => rfl
    case limit => rfl
    case named => simp [new, Registry.empty, Registry.fingerprint?]
  case bindings =>
    constructor
    case current => simp [new, Bindings.empty]
    case seen => rfl
    case preUi => rfl
  case constants => rfl
  case configuration => rfl

/-- When every handle of a run is another one, each stage having its own new handles, every call has
the same answer, files that are saved included, and every question has the same answer at the end.
Only the handles that are bound and those in the events are the new ones. -/
theorem handles_are_opaque (names : Renaming) (configuration : Configuration)
    {actions others : List Action} (renamed : List.Forall₂ (Action.Renamed names) actions others) :
    let turns := (new configuration).transcript actions
    let turns' := (new configuration).transcript others
    let tracker := (new configuration).after actions
    let other := (new configuration).after others
    (turns'.map (·.reply) = turns.map (·.reply) ∧
      turns'.map (·.events) = turns.map (·.events.map (Event.rename names))) ∧
    (∀ query, (∀ stage, query ≠ .boundHandle stage) →
      other.ask (query.rename names) = tracker.ask query) ∧
    (∀ stage, other.ask (.boundHandle stage) =
      .handle ((tracker.bindings.current.get stage).map (names.get stage))) ∧
    (other.registry.profiles = tracker.registry.profiles ∧ other.constants = tracker.constants) ∧
    ∀ event : Event, (event.rename names).level = event.level ∧
      (event.rename names).message = event.message ∧
      (event.rename names).fields.filter (·.1 ≠ "handle") =
        event.fields.filter (·.1 ≠ "handle") := by
  intro turns turns' tracker other
  obtain ⟨same, replies, events⟩ := transcript_matches
    (fun _ _ now _ _ renamed => outcome_renamed now renamed) (new_renamed names configuration)
    renamed
  have same : Renamed names tracker other := same
  refine ⟨⟨replies, events⟩, fun query plain => ask_renamed same plain, fun stage => ?_,
    ⟨same.registry.profiles, same.constants⟩, Event.rename_shown names⟩
  exact congrArg Answer.handle (same.bindings.current stage)

/-- The handle that is zero changes places with another one. The handle that is bound on the other
stage stands for nothing, before and after the host lets it go. -/
theorem zero_handle_is_opaque :
    let names : Renaming := ⟨Equiv.swap ⟨0⟩ ⟨7⟩, Equiv.swap ⟨1⟩ ⟨2⟩⟩
    let actions : List Action := [.call (.assign .vertex ⟨0⟩ ⟨5⟩), .call (.bound ⟨0x1⟩ ⟨0⟩),
      .call (.bind .pixel ⟨1⟩), .amend (·.forget .pixel ⟨1⟩), .call (.destroyed ⟨0x1⟩ ⟨1⟩)]
    let others : List Action := [.call (.assign .vertex ⟨7⟩ ⟨5⟩), .call (.bound ⟨0x1⟩ ⟨7⟩),
      .call (.bind .pixel ⟨2⟩), .amend (·.forget .pixel ⟨2⟩), .call (.destroyed ⟨0x1⟩ ⟨1⟩)]
    let other := (new ⟨"p", "d", false, 4096⟩).after others
    List.Forall₂ (Action.Renamed names) actions others ∧
      other.ask (.boundHandle .vertex) = .handle (some ⟨7⟩) ∧
      other.ask (.named .vertex ⟨7⟩) = .fingerprint (some ⟨5⟩) := by
  intro names actions others other
  let tracker := (new ⟨"p", "d", false, 4096⟩).after actions
  have forgets : Action.Renamed names (.amend (·.forget .pixel ⟨1⟩))
      (.amend (·.forget .pixel ⟨2⟩)) :=
    .amend fun registry registry' same => Registry.forget_renamed same .pixel ⟨1⟩
  have renamed : List.Forall₂ (Action.Renamed names) actions others :=
    .cons (.call _) (.cons (.call _) (.cons (.call _) (.cons forgets (.cons (.call _) .nil))))
  obtain ⟨-, answers, handles, -, -⟩ := handles_are_opaque names ⟨"p", "d", false, 4096⟩ renamed
  have bound : tracker.bindings.current.get .vertex = some ⟨0⟩ := by decide +kernel
  have named : tracker.registry.fingerprint? .vertex ⟨0⟩ = some ⟨5⟩ := by decide +kernel
  have answer : other.ask (.named .vertex ⟨7⟩) = tracker.ask (.named .vertex ⟨0⟩) :=
    answers (.named .vertex ⟨0⟩) (by simp)
  refine ⟨renamed, ?_, answer.trans (congrArg Answer.fingerprint named)⟩
  rw [handles .vertex, show _ = some _ from bound]
  rfl

end Tracker

end ShaderIdentity
