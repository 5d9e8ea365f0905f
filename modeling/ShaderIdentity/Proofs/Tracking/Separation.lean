import ShaderIdentity.Proofs.Tracking.Identity
import ShaderIdentity.Proofs.Tracking.Transcript
import ShaderIdentity.Tracking.Query

/-! The two stages do not interfere. What is done on one of them cannot be told from what is asked
about the other, even where handles and fingerprints are the same on both. -/
namespace ShaderIdentity

namespace Call

/-- The stage that a call is for. Calls for no stage that is known, and those that are for both,
have none. -/
def stage? : Call → Option Stage
  | .created raw _ _ | .createdFromWords raw _ _ | .bound raw _ | .destroyed raw _
  | .uploaded raw _ _ _ _ => raw.stage?
  | .register stage _ _ | .assign stage _ _ | .bind stage _ | .recordUpload stage _ _ _ _
  | .edit stage _ _ | .insert stage _ _ | .remove stage _ => some stage
  | .endPeriod | .load _ | .save _ => none

/-- Files hold the profiles of both stages. -/
def MeetsFiles : Call → Prop
  | .load _ | .save _ => True
  | _ => False

end Call

/-- Whether an upload is kept, and what is wrong with one that is not, does not depend on the
constants that are held already. -/
theorem ConstantShadow.record_checks (shadow other : ConstantShadow) (kind : ConstantKind)
    (fingerprint given : Fingerprint) (start count : UInt32) (data : List UInt32) :
    (shadow.record kind fingerprint start count data).map (fun _ => ()) =
      (other.record kind given start count data).map fun _ => () := by
  unfold record
  dsimp only
  split <;> rfl

namespace Registry

/-- The two registries hold the same for the stage. -/
structure AgreeOn (stage : Stage) (registry other : Registry) : Prop where
  profiles : other.profiles.get stage = registry.profiles.get stage
  handles : other.handles.get stage = registry.handles.get stage
  limit : other.bytecodeLimit = registry.bytecodeLimit

section
variable {stage shown : Stage} {registry other : Registry}

theorem AgreeOn.refl (registry : Registry) : registry.AgreeOn stage registry :=
  ⟨rfl, rfl, rfl⟩

theorem AgreeOn.symm (agree : registry.AgreeOn stage other) : other.AgreeOn stage registry :=
  ⟨agree.profiles.symm, agree.handles.symm, agree.limit.symm⟩

theorem AgreeOn.trans {third : Registry} (agree : registry.AgreeOn stage other)
    (next : other.AgreeOn stage third) : registry.AgreeOn stage third :=
  ⟨next.profiles.trans agree.profiles, next.handles.trans agree.handles,
    next.limit.trans agree.limit⟩

theorem AgreeOn.fingerprint? (agree : registry.AgreeOn stage other) (handle : Handle) :
    other.fingerprint? stage handle = registry.fingerprint? stage handle := by
  rw [Registry.fingerprint?, agree.handles]
  rfl

theorem AgreeOn.profile? (agree : registry.AgreeOn stage other) (fingerprint : Fingerprint) :
    other.profile? stage fingerprint = registry.profile? stage fingerprint := by
  rw [Registry.profile?, agree.profiles]
  rfl

/-! ## Changes on another stage -/

theorem update_elsewhere (registry : Registry) (ne : shown ≠ stage)
    (change : ProfileMap → ProfileMap) :
    registry.AgreeOn stage { registry with profiles := registry.profiles.update shown change } :=
  ⟨PerStage.get_set_of_ne _ _ ne.symm, rfl, rfl⟩

theorem assign_elsewhere (registry : Registry) (ne : shown ≠ stage) (handle : Handle)
    (fingerprint : Fingerprint) :
    registry.AgreeOn stage (registry.assign shown handle fingerprint).state :=
  ⟨PerStage.get_set_of_ne _ _ ne.symm, PerStage.get_set_of_ne _ _ ne.symm, rfl⟩

theorem forget_elsewhere (registry : Registry) (ne : shown ≠ stage) (handle : Handle) :
    registry.AgreeOn stage (registry.forget shown handle) :=
  ⟨rfl, PerStage.get_set_of_ne _ _ ne.symm, rfl⟩

/-! ## Changes on the stage -/

theorem update_agree (agree : registry.AgreeOn stage other) (change : ProfileMap → ProfileMap) :
    AgreeOn stage { registry with profiles := registry.profiles.update stage change }
      { other with profiles := other.profiles.update stage change } := by
  constructor
  case profiles => simp only [PerStage.get_update, agree.profiles]
  case handles => exact agree.handles
  case limit => exact agree.limit

theorem forget_agree (agree : registry.AgreeOn stage other) (handle : Handle) :
    (registry.forget stage handle).AgreeOn stage (other.forget stage handle) := by
  constructor
  case profiles => exact agree.profiles
  case handles => simp only [forget, PerStage.get_update, agree.handles]
  case limit => exact agree.limit

theorem assign_agree (agree : registry.AgreeOn stage other) (handle : Handle)
    (fingerprint : Fingerprint) :
    (registry.assign stage handle fingerprint).Matches (AgreeOn stage) id
      (other.assign stage handle fingerprint) := by
  constructor
  case answer => rfl
  case state =>
    constructor
    case profiles => simp only [assign, PerStage.get_update, agree.profiles]
    case handles => simp only [assign, PerStage.get_update, agree.handles]
    case limit => exact agree.limit
  case events =>
    rw [List.map_id, assign, agree.profile?, agree.fingerprint?]
    rfl

/-- The entries and the listings of a stage have to do with its own profiles only. -/
theorem load_agree (agree : registry.AgreeOn stage other) (archive : Archive) (files : FileTree) :
    (archive.load files registry).state.AgreeOn stage (archive.load files other).state := by
  by_cases decodes : ∃ text contents, files.readText archive.path = .ok text ∧
      Document.decode text = .ok contents
  · obtain ⟨text, contents, read, decoded⟩ := decodes
    constructor
    case profiles =>
      -- Each profile of the stage is told from its entry and its listing, or was there before.
      apply Std.ExtTreeMap.ext_getElem?
      intro fingerprint
      change Registry.profile? _ stage fingerprint = Registry.profile? _ stage fingerprint
      by_cases listed : ∃ settings, (fingerprint, settings) ∈ contents.entries.get stage
      · obtain ⟨settings, mem⟩ := listed
        rw [archive.load_entry registry read decoded mem, archive.load_entry other read decoded mem]
      · have absent := not_exists.mp listed
        rw [archive.load_other registry read decoded absent,
          archive.load_other other read decoded absent, agree.profile?]
    case handles =>
      rw [(archive.load_handles registry).1, (archive.load_handles other).1, agree.handles]
    case limit =>
      rw [(archive.load_handles registry).2, (archive.load_handles other).2, agree.limit]
  · rw [(archive.load_decoded_or_kept registry).resolve_left decodes,
      (archive.load_decoded_or_kept other).resolve_left decodes]
    exact agree

end

end Registry

/-- The action has nothing to do with the stage. It is a call for another one, or the host changes
the registry by itself and leaves what is held for the stage. -/
def Action.Elsewhere (stage : Stage) : Action → Prop
  | .call made => ∃ other, made.stage? = some other ∧ other ≠ stage
  | .amend change => ∀ registry : Registry, registry.AgreeOn stage (change registry)

/-- What the host does by itself to the registry, it does to the stage without regard to others. -/
def Action.Confined (stage : Stage) : Action → Prop
  | .call _ => True
  | .amend change => ∀ registry other : Registry, registry.AgreeOn stage other →
    (change registry).AgreeOn stage (change other)

theorem Action.Elsewhere.confined {stage : Stage} {action : Action}
    (elsewhere : action.Elsewhere stage) : action.Confined stage := by
  cases action with
  | call made => trivial
  | amend change =>
    intro registry other agree
    exact (elsewhere registry).symm.trans (agree.trans (elsewhere other))

def Action.MeetsFiles : Action → Prop
  | .call made => made.MeetsFiles
  | .amend _ => False

/-- The same was done and, unless files are met, the same came of it. -/
structure Turn.Alike (first second : Turn) : Prop where
  action : second.action = first.action
  told : ¬ first.action.MeetsFiles → second.reply = first.reply ∧ second.events = first.events

namespace Tracker

/-- The two trackers hold the same for the stage. The constants, and whether the UI pass was seen,
are shared by the stages. -/
structure AgreeOn (stage : Stage) (tracker other : Tracker) : Prop where
  registry : tracker.registry.AgreeOn stage other.registry
  current : other.bindings.current.get stage = tracker.bindings.current.get stage
  seen : other.bindings.seen.get stage = tracker.bindings.seen.get stage
  configuration : other.configuration = tracker.configuration

section
variable {stage shown : Stage} {tracker other : Tracker}

theorem AgreeOn.refl (tracker : Tracker) : tracker.AgreeOn stage tracker :=
  ⟨.refl _, rfl, rfl, rfl⟩

theorem AgreeOn.symm (agree : tracker.AgreeOn stage other) : other.AgreeOn stage tracker :=
  ⟨agree.registry.symm, agree.current.symm, agree.seen.symm, agree.configuration.symm⟩

theorem AgreeOn.trans {third : Tracker} (agree : tracker.AgreeOn stage other)
    (next : other.AgreeOn stage third) : tracker.AgreeOn stage third where
  registry := agree.registry.trans next.registry
  current := next.current.trans agree.current
  seen := next.seen.trans agree.seen
  configuration := next.configuration.trans agree.configuration

theorem AgreeOn.bound? (agree : tracker.AgreeOn stage other) :
    other.bound? stage = tracker.bound? stage := by
  rw [Tracker.bound?, Tracker.bound?, Bindings.fingerprint?_eq_bind, Bindings.fingerprint?_eq_bind,
    agree.current]
  congr 1
  exact funext agree.registry.fingerprint?

/-! ## Questions -/

theorem ask_agree (agree : tracker.AgreeOn stage other) {query : Query}
    (about : query.stage? = some stage) : other.ask query = tracker.ask query := by
  have bound := agree.bound?
  have profile : other.bindings.profile? other.registry stage =
      tracker.bindings.profile? tracker.registry stage := by
    rw [Bindings.profile?_eq_bind, Bindings.profile?_eq_bind, ← Tracker.bound?, ← Tracker.bound?,
      bound]
    congr 1
    exact funext agree.registry.profile?
  cases query with
  | named asked handle =>
    cases about
    exact congrArg Answer.fingerprint (agree.registry.fingerprint? handle)
  | resolved asked handle =>
    cases about
    have resolved : other.registry.resolve? stage handle =
        tracker.registry.resolve? stage handle := by
      rw [Registry.resolve?, agree.registry.fingerprint?, funext agree.registry.profile?]
      rfl
    exact congrArg Answer.profile resolved
  | profile asked fingerprint =>
    cases about
    exact congrArg Answer.profile (agree.registry.profile? fingerprint)
  | profiles asked =>
    cases about
    exact congrArg Answer.profiles agree.registry.profiles
  | boundHandle asked =>
    cases about
    exact congrArg Answer.handle agree.current
  | boundFingerprint asked =>
    cases about
    exact congrArg Answer.fingerprint bound
  | boundProfile asked =>
    cases about
    exact congrArg Answer.profile profile
  | isWatched register asked =>
    cases about
    exact congrArg (Answer.truth <| ·.any (·.watches stage register)) profile
  | wasBound fingerprint asked =>
    cases about
    exact congrArg (Answer.truth <| ·.contains fingerprint) agree.seen
  | isCurrent fingerprint asked =>
    cases about
    exact congrArg (fun bound => Answer.truth (bound = some fingerprint)) bound
  | _ => cases about

/-! ## Calls for another stage -/

theorem recordUpload_elsewhere (tracker : Tracker) (ne : shown ≠ stage) (kind : ConstantKind)
    (start count : UInt32) (data : List UInt32) :
    tracker.AgreeOn stage (tracker.recordUpload shown kind start count data).state := by
  let upload : Upload := ⟨shown, kind, start, count, data⟩
  change tracker.AgreeOn stage (tracker.keep upload).state
  have marked : tracker.registry.AgreeOn stage (tracker.marked upload) := by
    unfold marked
    split
    · split
      · exact tracker.registry.update_elsewhere ne _
      · exact .refl _
    · exact .refl _
  cases recorded : tracker.recorded upload with
  | error err =>
    rw [tracker.keep_short recorded]
    exact .refl tracker
  | ok constants =>
    rw [tracker.keep_recorded recorded]
    exact ⟨marked, rfl, rfl, rfl⟩

theorem assign_elsewhere (tracker : Tracker) (ne : shown ≠ stage) (handle : Handle)
    (fingerprint : Fingerprint) :
    tracker.AgreeOn stage (tracker.assign shown handle fingerprint).state :=
  ⟨tracker.registry.assign_elsewhere ne handle fingerprint, rfl, rfl, rfl⟩

theorem register_elsewhere (tracker : Tracker) (ne : shown ≠ stage) (handle : Handle)
    (bytecode : List UInt8) :
    tracker.AgreeOn stage (tracker.register shown handle bytecode).state := by
  rw [register_eq]
  cases Fingerprint.ofBytes bytecode tracker.registry.bytecodeLimit with
  | error err => exact .refl tracker
  | ok fingerprint => exact tracker.assign_elsewhere ne handle fingerprint

theorem bind_elsewhere (tracker : Tracker) (ne : shown ≠ stage) (handle : Handle) :
    tracker.AgreeOn stage (tracker.bind shown handle).state := by
  constructor
  case registry => exact .refl _
  case current => exact PerStage.get_set_of_ne _ _ ne.symm
  case seen =>
    simp only [bind, Bindings.bind]
    split
    · exact PerStage.get_set_of_ne _ _ ne.symm
    · rfl
  case configuration => rfl

theorem destroy_elsewhere (tracker : Tracker) (ne : shown ≠ stage) (handle : Handle) :
    tracker.AgreeOn stage (tracker.apply (.destroyed shown handle)) := by
  have forgotten := tracker.registry.forget_elsewhere ne handle
  simp only [apply]
  by_cases held : tracker.bindings.current.get shown = some handle
  · rw [if_pos held]
    exact ⟨forgotten, PerStage.get_set_of_ne _ _ ne.symm, rfl, rfl⟩
  · rw [if_neg held]
    exact ⟨forgotten, rfl, rfl, rfl⟩

theorem onStage_elsewhere {α : Type} (tracker : Tracker) {raw : RawStage} (refused : CallError → α)
    {call : Stage → Outcome Tracker α} (named : raw.stage? = some shown)
    (elsewhere : tracker.AgreeOn stage (call shown).state) :
    tracker.AgreeOn stage (tracker.onStage raw refused call).state := by
  rw [onStage, named]
  exact elsewhere

/-- A call for another stage leaves everything that is held for this one. -/
theorem perform_elsewhere (tracker : Tracker) {call : Call} (named : call.stage? = some shown)
    (ne : shown ≠ stage) : tracker.AgreeOn stage (tracker.perform call).state := by
  cases call with
  | created raw bytecode handle =>
    exact tracker.onStage_elsewhere Except.error named
      (tracker.register_elsewhere ne handle bytecode)
  | createdFromWords raw words handle =>
    refine tracker.onStage_elsewhere Except.error named ?_
    cases streamOfWords words tracker.configuration.bytecodeLimit.toNat with
    | ok bytecode => exact tracker.register_elsewhere ne handle bytecode
    | error err => exact .refl tracker
  | register given handle bytecode =>
    cases named
    exact tracker.register_elsewhere ne handle bytecode
  | assign given handle fingerprint =>
    cases named
    exact tracker.assign_elsewhere ne handle fingerprint
  | bound raw handle =>
    exact tracker.onStage_elsewhere (fun _ => ()) named (tracker.bind_elsewhere ne handle)
  | bind given handle =>
    cases named
    exact tracker.bind_elsewhere ne handle
  | destroyed raw handle =>
    exact tracker.onStage_elsewhere (fun _ => ()) named (tracker.destroy_elsewhere ne handle)
  | uploaded raw kind start count data =>
    exact tracker.onStage_elsewhere (fun _ => ()) named
      (tracker.recordUpload_elsewhere ne kind start count data)
  | recordUpload given kind start count data =>
    cases named
    exact tracker.recordUpload_elsewhere ne kind start count data
  | edit given fingerprint edit =>
    cases named
    exact ⟨tracker.registry.update_elsewhere ne (·.modify fingerprint edit.apply), rfl, rfl, rfl⟩
  | insert given fingerprint profile =>
    cases named
    exact ⟨tracker.registry.update_elsewhere ne (·.insert fingerprint profile), rfl, rfl, rfl⟩
  | remove given fingerprint =>
    cases named
    exact ⟨tracker.registry.update_elsewhere ne (·.erase fingerprint), rfl, rfl, rfl⟩
  | endPeriod | load | save => cases named

theorem act_elsewhere (tracker : Tracker) {action : Action} (elsewhere : action.Elsewhere stage) :
    tracker.AgreeOn stage (tracker.act action) := by
  cases action with
  | amend change => exact ⟨elsewhere tracker.registry, rfl, rfl, rfl⟩
  | call call =>
    obtain ⟨shown, named, ne⟩ := elsewhere
    exact tracker.perform_elsewhere named ne

/-! ## Calls for the stage -/

/-- Where trackers agree on the stage, a step has the same answer, reports the same, and leaves them
so. -/
abbrev Agrees {α : Type} (stage : Stage) (first second : Outcome Tracker α) : Prop :=
  first.Matches (AgreeOn stage) id second

theorem AgreeOn.withRegistry (agree : tracker.AgreeOn stage other) {registry registry' : Registry}
    (registries : registry.AgreeOn stage registry') :
    AgreeOn stage { tracker with registry } { other with registry := registry' } :=
  ⟨registries, agree.current, agree.seen, agree.configuration⟩

theorem assign_agree (agree : tracker.AgreeOn stage other) (handle : Handle)
    (fingerprint : Fingerprint) :
    Agrees stage (tracker.assign stage handle fingerprint)
      (other.assign stage handle fingerprint) := by
  have assigned := Registry.assign_agree agree.registry handle fingerprint
  exact ⟨rfl, agree.withRegistry assigned.state, assigned.events⟩

theorem register_agree (agree : tracker.AgreeOn stage other) (handle : Handle)
    (bytecode : List UInt8) :
    Agrees stage (tracker.register stage handle bytecode)
      (other.register stage handle bytecode) := by
  rw [register_eq, register_eq, agree.registry.limit]
  cases Fingerprint.ofBytes bytecode tracker.registry.bytecodeLimit with
  | error err => exact ⟨rfl, agree, rfl⟩
  | ok fingerprint => exact (assign_agree agree handle fingerprint).mapAnswer _

theorem bind_agree (agree : tracker.AgreeOn stage other) (handle : Handle) :
    Agrees stage (tracker.bind stage handle) (other.bind stage handle) := by
  constructor
  case answer => rfl
  case state =>
    constructor
    case registry => exact agree.registry
    case current => simp only [bind, Bindings.bind, PerStage.get_set_self]
    case seen =>
      -- Both look the handle up on the stage, and find the same.
      simp only [bind, Bindings.bind, agree.registry.fingerprint?]
      split
      · simp only [PerStage.get_update, agree.seen]
      · exact agree.seen
    case configuration => exact agree.configuration
  case events =>
    rw [List.map_id, bind, agree.registry.fingerprint?]
    rfl

theorem destroy_agree (agree : tracker.AgreeOn stage other) (handle : Handle) :
    (tracker.apply (.destroyed stage handle)).AgreeOn stage
      (other.apply (.destroyed stage handle)) := by
  have forgotten := Registry.forget_agree agree.registry handle
  simp only [apply, agree.current]
  by_cases held : tracker.bindings.current.get stage = some handle
  · rw [if_pos held, if_pos held]
    refine ⟨forgotten, ?_, agree.seen, agree.configuration⟩
    simp only [Bindings.unbind, PerStage.get_set_self]
  · rw [if_neg held, if_neg held]
    exact ⟨forgotten, agree.current, agree.seen, agree.configuration⟩

theorem marked_agree (agree : tracker.AgreeOn stage other) {upload : Upload}
    (here : upload.stage = stage) :
    (tracker.marked upload).AgreeOn stage (other.marked upload) := by
  subst here
  unfold marked
  rw [agree.bound?]
  split
  · split
    · exact Registry.update_agree agree.registry _
    · exact agree.registry
  · exact agree.registry

theorem keep_agree (agree : tracker.AgreeOn stage other) (upload : Upload)
    (here : upload.stage = stage) : Agrees stage (tracker.keep upload) (other.keep upload) := by
  have checks : (tracker.recorded upload).map (fun _ => ()) =
      (other.recorded upload).map fun _ => () := ConstantShadow.record_checks ..
  cases recorded : tracker.recorded upload with
  | error err =>
    cases recorded' : other.recorded upload with
    | error err' =>
      rw [recorded, recorded'] at checks
      cases checks
      rw [tracker.keep_short recorded, other.keep_short recorded']
      exact ⟨rfl, agree, rfl⟩
    | ok constants' =>
      rw [recorded, recorded'] at checks
      cases checks
  | ok constants =>
    cases recorded' : other.recorded upload with
    | error err' =>
      rw [recorded, recorded'] at checks
      cases checks
    | ok constants' =>
      rw [tracker.keep_recorded recorded, other.keep_recorded recorded']
      have marked := marked_agree agree here
      exact ⟨rfl, ⟨marked, agree.current, agree.seen, agree.configuration⟩, rfl⟩

/-- A call that is not for another stage comes to the same, whatever was done on the others. -/
theorem perform_agree (agree : tracker.AgreeOn stage other) {call : Call}
    (here : ∀ given, call.stage? = some given → given = stage) (plain : ¬ call.MeetsFiles) :
    Agrees stage (tracker.perform call) (other.perform call) := by
  cases call with
  | created raw bytecode handle =>
    have created : Agrees stage (tracker.shaderCreated raw bytecode handle)
        (other.shaderCreated raw bytecode handle) := by
      refine onStage_matches agree (fun _ => rfl) fun given shown => ?_
      obtain rfl := here given shown
      exact register_agree agree handle bytecode
    exact created.mapAnswer Reply.registered
  | createdFromWords raw words handle =>
    have created : Agrees stage (tracker.shaderCreatedFromWords raw words handle)
        (other.shaderCreatedFromWords raw words handle) := by
      refine onStage_matches agree (fun _ => rfl) fun given shown => ?_
      obtain rfl := here given shown
      rw [agree.configuration]
      cases streamOfWords words tracker.configuration.bytecodeLimit.toNat with
      | ok bytecode => exact register_agree agree handle bytecode
      | error err => exact ⟨rfl, agree, rfl⟩
    exact created.mapAnswer Reply.registered
  | register given handle bytecode =>
    obtain rfl := here given rfl
    exact (register_agree agree handle bytecode).mapAnswer Reply.registered
  | assign given handle fingerprint =>
    obtain rfl := here given rfl
    exact (assign_agree agree handle fingerprint).mapAnswer fun () => Reply.done
  | bound raw handle =>
    have bound : Agrees stage (tracker.shaderBound raw handle) (other.shaderBound raw handle) := by
      refine onStage_matches agree (fun _ => rfl) fun given shown => ?_
      obtain rfl := here given shown
      exact bind_agree agree handle
    exact bound.mapAnswer fun () => Reply.done
  | bind given handle =>
    obtain rfl := here given rfl
    exact (bind_agree agree handle).mapAnswer fun () => Reply.done
  | destroyed raw handle =>
    have destroyed : Agrees stage (tracker.shaderDestroyed raw handle)
        (other.shaderDestroyed raw handle) := by
      refine onStage_matches agree (fun _ => rfl) fun given shown => ?_
      obtain rfl := here given shown
      exact ⟨rfl, destroy_agree agree handle, rfl⟩
    exact destroyed.mapAnswer fun () => Reply.done
  | uploaded raw kind start count data =>
    have uploaded : Agrees stage (tracker.constantsUploaded raw kind start count data)
        (other.constantsUploaded raw kind start count data) :=
      constantsUploaded_matches agree (fun _ => rfl) (fun _ _ => rfl) fun given shown =>
        keep_agree agree ⟨given, kind, start, count, data⟩ (here given shown)
    exact uploaded.mapAnswer fun () => Reply.done
  | recordUpload given kind start count data =>
    obtain rfl := here given rfl
    exact (keep_agree agree ⟨given, kind, start, count, data⟩ rfl).mapAnswer Reply.recorded
  | endPeriod =>
    exact ⟨rfl, ⟨agree.registry, agree.current, rfl, agree.configuration⟩, rfl⟩
  | edit given fingerprint edit =>
    obtain rfl := here given rfl
    have edited := Registry.update_agree agree.registry (·.modify fingerprint edit.apply)
    exact ⟨congrArg Reply.profile (edited.profile? fingerprint), agree.withRegistry edited, rfl⟩
  | insert given fingerprint profile =>
    obtain rfl := here given rfl
    have inserted := Registry.update_agree agree.registry (·.insert fingerprint profile)
    exact ⟨congrArg Reply.profile (agree.registry.profile? fingerprint),
      agree.withRegistry inserted, rfl⟩
  | remove given fingerprint =>
    obtain rfl := here given rfl
    have removed := Registry.update_agree agree.registry (·.erase fingerprint)
    exact ⟨congrArg Reply.profile (agree.registry.profile? fingerprint),
      agree.withRegistry removed, rfl⟩
  | load | save => exact absurd trivial plain

theorem load_agree (agree : tracker.AgreeOn stage other) (files : FileTree) :
    (tracker.load files).state.AgreeOn stage (other.load files).state := by
  rw [load_state, load_state, agree.configuration]
  have loaded := Registry.load_agree agree.registry tracker.configuration.archive files
  exact ⟨loaded, agree.current, agree.seen, rfl⟩

/-- An action that may have to do with the stage leaves trackers that agree on it so, and unless it
meets files they tell the host the same. -/
theorem outcome_agree (agree : tracker.AgreeOn stage other) {action : Action}
    (here : ¬ action.Elsewhere stage) (confined : action.Confined stage) :
    (tracker.act action).AgreeOn stage (other.act action) ∧
      Turn.Alike ⟨action, tracker.outcome action⟩ ⟨action, other.outcome action⟩ := by
  cases action with
  | amend change =>
    have changed := confined tracker.registry other.registry agree.registry
    exact ⟨agree.withRegistry changed, rfl, fun _ => ⟨rfl, rfl⟩⟩
  | call call =>
    have here : ∀ given, call.stage? = some given → given = stage := by
      intro given named
      by_contra ne
      exact here ⟨given, named, ne⟩
    by_cases meets : call.MeetsFiles
    · refine ⟨?_, rfl, fun plain => absurd meets plain⟩
      cases call with
      | load files => exact load_agree agree files
      | save files => exact agree
      | _ => cases meets
    · have same := perform_agree agree here meets
      refine ⟨same.state, rfl, fun _ => ⟨same.answer, ?_⟩⟩
      exact same.events.trans (List.map_id _)

/-! ## Runs without what is done elsewhere -/

open Classical in
theorem transcript_agree (agree : tracker.AgreeOn stage other) {actions : List Action}
    (confined : ∀ action ∈ actions, action.Confined stage) :
    let kept := actions.filter fun action => ¬ action.Elsewhere stage
    (tracker.after actions).AgreeOn stage (other.after kept) ∧
      List.Forall₂ Turn.Alike
        ((tracker.transcript actions).filter fun turn => ¬ turn.action.Elsewhere stage)
        (other.transcript kept) := by
  induction actions generalizing tracker other with
  | nil => exact ⟨agree, .nil⟩
  | cons action rest ih =>
    have restConfined : ∀ action ∈ rest, action.Confined stage :=
      fun action mem => confined action (List.mem_cons_of_mem _ mem)
    by_cases elsewhere : action.Elsewhere stage
    · -- Only the whole run takes this step.
      have stays : (tracker.act action).AgreeOn stage other :=
        (tracker.act_elsewhere elsewhere).symm.trans agree
      rw [transcript, List.filter_cons_of_neg (by simpa), List.filter_cons_of_neg (by simpa)]
      exact ih stays restConfined
    · obtain ⟨next, alike⟩ := outcome_agree agree elsewhere (confined action List.mem_cons_self)
      obtain ⟨left, turns⟩ := ih next restConfined
      rw [transcript, List.filter_cons_of_pos (by simpa), List.filter_cons_of_pos (by simpa)]
      exact ⟨left, .cons alike turns⟩

end

open Classical in
/-- Take from a run all that has to do with the other stage alone. What can be asked about this one
has the same answer at the end, and what is left of the run comes to the same, step by step. Only
loads and saves, whose files hold the profiles of both stages, may tell the host something else. -/
theorem stages_do_not_interfere (configuration : Configuration) (stage : Stage)
    {actions : List Action} (confined : ∀ action ∈ actions, action.Confined stage) :
    let kept := actions.filter fun action => ¬ action.Elsewhere stage
    let whole := (new configuration).after actions
    let alone := (new configuration).after kept
    (∀ query, query.stage? = some stage → alone.ask query = whole.ask query) ∧
      List.Forall₂ Turn.Alike
        (((new configuration).transcript actions).filter fun turn =>
          ¬ turn.action.Elsewhere stage)
        ((new configuration).transcript kept) := by
  intro kept whole alone
  obtain ⟨agree, turns⟩ := transcript_agree (.refl (new configuration)) confined
  exact ⟨fun query about => ask_agree agree about, turns⟩

open Classical in
/-- Both stages use the same handle, and the other one uploads to the register of the world matrix
and loses a profile. -/
theorem handle_shared_with_other_stage :
    let configuration : Configuration := ⟨"p", "d", false, 4096⟩
    let actions : List Action := [.call (.assign .vertex ⟨1⟩ ⟨5⟩), .call (.assign .pixel ⟨1⟩ ⟨9⟩),
      .call (.bind .pixel ⟨1⟩), .call (.recordUpload .pixel .float 195 1 [1, 2, 3, 4]),
      .amend (·.remove .pixel ⟨9⟩), .call (.destroyed ⟨0x10⟩ ⟨1⟩), .call (.bind .vertex ⟨1⟩),
      .call (.load .empty)]
    let whole := (new configuration).after actions
    (∀ action ∈ actions, action.Confined .vertex) ∧
      (actions.filter fun action => ¬ action.Elsewhere .vertex) =
        [.call (.assign .vertex ⟨1⟩ ⟨5⟩), .call (.bind .vertex ⟨1⟩), .call (.load .empty)] ∧
      whole.ask (.named .vertex ⟨1⟩) = .fingerprint (some ⟨5⟩) ∧
      whole.ask (.boundProfile .vertex) = .profile (some .initial) := by
  intro configuration actions whole
  have removes : Action.Elsewhere .vertex (.amend (·.remove .pixel ⟨9⟩)) :=
    fun registry => registry.update_elsewhere (by decide) (·.erase ⟨9⟩)
  have confined : ∀ action ∈ actions, action.Confined .vertex := by
    simpa [actions, Action.Confined] using removes.confined
  have kept : (actions.filter fun action => ¬ action.Elsewhere .vertex) =
      [.call (.assign .vertex ⟨1⟩ ⟨5⟩), .call (.bind .vertex ⟨1⟩), .call (.load .empty)] := by
    have raw : RawStage.stage? ⟨0x10⟩ = some .pixel := by decide
    have calls : ∀ made : Call, Action.Elsewhere .vertex (.call made) ↔
        ∃ other, made.stage? = some other ∧ other ≠ .vertex := fun _ => Iff.rfl
    simp [actions, removes, calls, Call.stage?, raw]
  obtain ⟨answers, -⟩ := stages_do_not_interfere configuration .vertex confined
  rw [kept] at answers
  let alone := (new configuration).after
    [.call (.assign .vertex ⟨1⟩ ⟨5⟩), .call (.bind .vertex ⟨1⟩), .call (.load .empty)]
  have named : alone.registry.fingerprint? .vertex ⟨1⟩ = some ⟨5⟩ := by decide +kernel
  have profile : alone.bindings.profile? alone.registry .vertex = some .initial := by decide +kernel
  refine ⟨confined, kept, ?_, ?_⟩
  · rw [← answers (.named .vertex ⟨1⟩) rfl]
    exact congrArg Answer.fingerprint named
  · rw [← answers (.boundProfile .vertex) rfl]
    exact congrArg Answer.profile profile

end Tracker

end ShaderIdentity
