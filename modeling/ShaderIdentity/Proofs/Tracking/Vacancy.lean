import ShaderIdentity.Proofs.Tracking.Identity
import ShaderIdentity.Proofs.Tracking.Period
import ShaderIdentity.Proofs.Tracking.Transcript
import ShaderIdentity.Tracking.Query

/-! A handle that stands for nothing. To bind it is as good as to leave the stage without a shader:
until it comes to stand for one, only the handle itself and the start of the UI pass can tell. -/
namespace ShaderIdentity

/-- From now on the handle stands for a shader on the stage. -/
def Effect.Names (stage : Stage) (handle : Handle) : Effect → Prop
  | .registered other named _ => other = stage ∧ named = handle
  | .amended registry => registry.fingerprint? stage handle ≠ none
  | _ => False

/-! ## What is bound -/

namespace Bindings

/-- The same is bound in both, except that only the first may have the handle bound on the stage. -/
def SameBut (stage : Stage) (handle : Handle) (held free : Bindings) : Prop :=
  ∀ shown, free.current.get shown = held.current.get shown ∨
    shown = stage ∧ held.current.get shown = some handle ∧ free.current.get shown = none

section
variable {stage : Stage} {handle : Handle} {held free : Bindings} {registry : Registry}

theorem SameBut.fingerprint?_eq (same : SameBut stage handle held free)
    (unnamed : registry.fingerprint? stage handle = none) (shown : Stage) :
    free.fingerprint? registry shown = held.fingerprint? registry shown := by
  rw [fingerprint?_eq_bind, fingerprint?_eq_bind]
  rcases same shown with eq | ⟨rfl, bound, nothing⟩
  · rw [eq]
  · rw [bound, nothing]
    exact unnamed.symm

theorem SameBut.profile?_eq (same : SameBut stage handle held free)
    (unnamed : registry.fingerprint? stage handle = none) (shown : Stage) :
    free.profile? registry shown = held.profile? registry shown := by
  rw [profile?_eq_bind, profile?_eq_bind, same.fingerprint?_eq unnamed]

theorem SameBut.profiles_eq (same : SameBut stage handle held free)
    (unnamed : registry.fingerprint? stage handle = none) :
    free.profiles registry = held.profiles registry := by
  have resolved : free.profile? registry = held.profile? registry :=
    funext (same.profile?_eq unnamed)
  rw [profiles, resolved]
  rfl

theorem SameBut.bind (same : SameBut stage handle held free) (given : Stage) (other : Handle) :
    SameBut stage handle (held.bind registry given other) (free.bind registry given other) := by
  intro shown
  simp only [Bindings.bind, PerStage.get_set]
  by_cases rebound : shown = given
  · left
    rw [if_pos rebound, if_pos rebound]
  · rw [if_neg rebound, if_neg rebound]
    exact same shown

/-- The bindings once the shader of a handle is destroyed. -/
def release (bindings : Bindings) (stage : Stage) (handle : Handle) : Bindings :=
  if bindings.current.get stage = some handle then bindings.unbind stage else bindings

theorem current_release (bindings : Bindings) (given shown : Stage) (gone : Handle) :
    (bindings.release given gone).current.get shown =
      if shown = given ∧ bindings.current.get shown = some gone then none
      else bindings.current.get shown := by
  unfold release
  by_cases bound : bindings.current.get given = some gone
  · rw [if_pos bound, unbind, PerStage.get_set]
    by_cases same : shown = given
    · subst same
      rw [if_pos rfl, if_pos ⟨rfl, bound⟩]
    · rw [if_neg same, if_neg fun both => same both.1]
  · rw [if_neg bound, if_neg]
    rintro ⟨rfl, held⟩
    exact bound held

theorem release_period (bindings : Bindings) (stage : Stage) (handle : Handle) :
    (bindings.release stage handle).seen = bindings.seen ∧
      (bindings.release stage handle).preUi = bindings.preUi := by
  unfold release
  split <;> exact ⟨rfl, rfl⟩

/-- When the shader of the handle is destroyed, the two are bound alike again. -/
theorem SameBut.release (same : SameBut stage handle held free) (given : Stage) (gone : Handle) :
    SameBut stage handle (held.release given gone) (free.release given gone) := by
  intro shown
  rw [current_release, current_release]
  rcases same shown with eq | ⟨here, bound, nothing⟩
  · left
    rw [eq]
  · rw [bound, nothing]
    by_cases freed : shown = given ∧ handle = gone
    · left
      simp [freed]
    · right
      refine ⟨here, if_neg ?_, by simp⟩
      rintro ⟨there, same⟩
      exact freed ⟨there, Option.some.inj same⟩

end

end Bindings

namespace Tracker

/-- The tracker with nothing bound on the stage. -/
def unbind (tracker : Tracker) (stage : Stage) : Tracker :=
  { tracker with bindings := tracker.bindings.unbind stage }

/-- The two trackers hold the same. Only the first may have the handle bound on the stage, and until
a period has ended the UI pass may have begun for the first alone. -/
structure SameBut (stage : Stage) (handle : Handle) (ended : Prop) (held free : Tracker) : Prop where
  registry : free.registry = held.registry
  constants : free.constants = held.constants
  configuration : free.configuration = held.configuration
  bindings : held.bindings.SameBut stage handle free.bindings
  seen : free.bindings.seen = held.bindings.seen
  preUi : free.bindings.preUi = true → held.bindings.preUi = true
  period : ended → free.bindings.preUi = held.bindings.preUi

section
variable {stage : Stage} {handle : Handle} {ended : Prop} {held free : Tracker}

theorem SameBut.bound?_eq (same : SameBut stage handle ended held free)
    (unnamed : held.registry.fingerprint? stage handle = none) (shown : Stage) :
    free.bound? shown = held.bound? shown := by
  rw [bound?, bound?, same.registry]
  exact same.bindings.fingerprint?_eq unnamed shown

/-! ## Questions -/

theorem SameBut.ask_eq (same : SameBut stage handle ended held free)
    (unnamed : held.registry.fingerprint? stage handle = none) {query : Query}
    (notHandle : query ≠ .boundHandle stage) (notPreUi : query ≠ .isPreUi) :
    free.ask query = held.ask query := by
  have bound := same.bound?_eq unnamed
  have profile := same.bindings.profile?_eq unnamed
  have profiles := same.bindings.profiles_eq unnamed
  cases query with
  | named | resolved | profile | profiles => simp only [ask, same.registry]
  | constants | constantAt => simp only [ask, same.constants]
  | configuration => simp only [ask, same.configuration]
  | boundHandle shown =>
    have elsewhere : shown ≠ stage := fun here => notHandle (by rw [here])
    have current := (same.bindings shown).resolve_right fun right => elsewhere right.1
    simp only [ask, current]
  | boundFingerprint shown => simp only [ask, bound]
  | boundProfile shown => simp only [ask, same.registry, profile]
  | isActivated => simp only [ask, Bindings.isActivated, same.registry, profiles]
  | isFlagged flags => simp only [ask, Bindings.isFlagged, same.registry, profiles]
  | isWorldMatrixBound => simp only [ask, Bindings.isWorldMatrixBound, same.registry, profiles]
  | isWatched register shown => simp only [ask, Bindings.isWatched, same.registry, profile]
  | wasBound fingerprint shown => simp only [ask, Bindings.wasBound, same.seen]
  | isCurrent fingerprint shown =>
    have current := same.bindings.fingerprint?_eq unnamed shown
    simp only [ask, Bindings.isCurrent, same.registry, current]
  | isPreUi => exact absurd rfl notPreUi

/-! ## Steps -/

/-- A step has the same answer and reports the same, and the trackers stay as they are to each
other. -/
abbrev Untold {α : Type} (stage : Stage) (handle : Handle) (ended : Prop)
    (first second : Outcome Tracker α) : Prop :=
  first.Matches (SameBut stage handle ended) id second

theorem SameBut.withRegistry (same : SameBut stage handle ended held free) (registry : Registry) :
    SameBut stage handle ended { held with registry } { free with registry } :=
  { same with registry := rfl }

theorem assign_untold (same : SameBut stage handle ended held free) (given : Stage) (other : Handle)
    (fingerprint : Fingerprint) :
    Untold stage handle ended (held.assign given other fingerprint)
      (free.assign given other fingerprint) := by
  unfold assign
  rw [same.registry]
  exact ⟨rfl, same.withRegistry _, (List.map_id _).symm⟩

theorem register_untold (same : SameBut stage handle ended held free) (given : Stage)
    (other : Handle) (bytecode : List UInt8) :
    Untold stage handle ended (held.register given other bytecode)
      (free.register given other bytecode) := by
  rw [register_eq, register_eq, same.registry]
  cases Fingerprint.ofBytes bytecode held.registry.bytecodeLimit with
  | error err => exact ⟨rfl, same, rfl⟩
  | ok fingerprint => exact (assign_untold same given other fingerprint).mapAnswer _

/-- Whether the UI pass begins is told from what the stages resolve to. -/
theorem bind_untold (same : SameBut stage handle ended held free)
    (unnamed : held.registry.fingerprint? stage handle = none) (given : Stage) (other : Handle) :
    Untold stage handle ended (held.bind given other) (free.bind given other) := by
  have bindings : (held.bindings.bind held.registry given other).SameBut stage handle
      (free.bindings.bind held.registry given other) := same.bindings.bind given other
  have resolved := bindings.profile?_eq unnamed
  constructor
  case answer => rfl
  case events =>
    rw [List.map_id, bind, same.registry]
    rfl
  case state =>
    simp only [bind, same.registry]
    constructor
    case registry => rfl
    case constants => exact same.constants
    case configuration => exact same.configuration
    case bindings => exact bindings
    case seen =>
      simp only [Bindings.bind]
      split
      · rw [same.seen]
      · exact same.seen
    case preUi =>
      simp only [Bindings.preUi_bind, resolved]
      exact Or.imp_right same.preUi
    case period =>
      intro past
      rw [Bool.eq_iff_iff, Bindings.preUi_bind, Bindings.preUi_bind, same.period past]
      simp only [resolved]

theorem destroy_untold (same : SameBut stage handle ended held free) (given : Stage)
    (gone : Handle) :
    SameBut stage handle ended (held.apply (.destroyed given gone))
      (free.apply (.destroyed given gone)) := by
  obtain ⟨heldSeen, heldPreUi⟩ := held.bindings.release_period given gone
  obtain ⟨freeSeen, freePreUi⟩ := free.bindings.release_period given gone
  constructor
  case registry => simp only [apply, same.registry]
  case constants => exact same.constants
  case configuration => exact same.configuration
  case bindings => exact same.bindings.release given gone
  case seen => exact freeSeen.trans (same.seen.trans heldSeen.symm)
  case preUi =>
    intro begun
    exact heldPreUi.trans (same.preUi (freePreUi.symm.trans begun))
  case period =>
    intro past
    exact freePreUi.trans ((same.period past).trans heldPreUi.symm)

theorem keep_untold (same : SameBut stage handle ended held free)
    (unnamed : held.registry.fingerprint? stage handle = none) (upload : Upload) :
    Untold stage handle ended (held.keep upload) (free.keep upload) := by
  have bound := same.bound?_eq unnamed upload.stage
  have recorded : free.recorded upload = held.recorded upload := by
    rw [Tracker.recorded, Tracker.recorded, same.constants, bound]
  have marked : free.marked upload = held.marked upload := by
    unfold marked
    rw [bound, same.registry]
  cases kept : held.recorded upload with
  | error err =>
    rw [held.keep_short kept, free.keep_short (recorded.trans kept)]
    exact ⟨rfl, same, rfl⟩
  | ok constants =>
    rw [held.keep_recorded kept, free.keep_recorded (recorded.trans kept), marked]
    exact ⟨rfl, { same with registry := rfl, constants := rfl }, rfl⟩

theorem load_untold (same : SameBut stage handle ended held free) (files : FileTree) :
    Untold stage handle ended (held.load files) (free.load files) := by
  have loaded : free.configuration.archive.load files free.registry =
      held.configuration.archive.load files held.registry := by
    rw [same.registry, same.configuration]
  simp only [load, loaded]
  cases (held.configuration.archive.load files held.registry).answer <;>
    exact ⟨rfl, same.withRegistry _, (List.map_id _).symm⟩

theorem save_untold (same : SameBut stage handle ended held free) (files : FileTree) :
    Untold stage handle ended (held.perform (.save files)) (free.perform (.save files)) := by
  have saved : free.save files = held.save files := by
    unfold save
    rw [same.registry, same.configuration]
  rw [perform_save, perform_save, saved]
  exact ⟨rfl, same, (List.map_id _).symm⟩

theorem perform_untold (same : SameBut stage handle ended held free)
    (unnamed : held.registry.fingerprint? stage handle = none) (call : Call) :
    Untold stage handle ended (held.perform call) (free.perform call) := by
  cases call with
  | created raw bytecode other =>
    have created : Untold stage handle ended (held.shaderCreated raw bytecode other)
        (free.shaderCreated raw bytecode other) :=
      onStage_matches same (fun _ => rfl) fun given _ => register_untold same given other bytecode
    exact created.mapAnswer Reply.registered
  | createdFromWords raw words other =>
    have created : Untold stage handle ended (held.shaderCreatedFromWords raw words other)
        (free.shaderCreatedFromWords raw words other) := by
      refine onStage_matches same (fun _ => rfl) fun given _ => ?_
      rw [same.configuration]
      cases streamOfWords words held.configuration.bytecodeLimit.toNat with
      | ok bytecode => exact register_untold same given other bytecode
      | error err => exact ⟨rfl, same, rfl⟩
    exact created.mapAnswer Reply.registered
  | register given other bytecode =>
    exact (register_untold same given other bytecode).mapAnswer Reply.registered
  | assign given other fingerprint =>
    exact (assign_untold same given other fingerprint).mapAnswer fun () => Reply.done
  | bound raw other =>
    have bound : Untold stage handle ended (held.shaderBound raw other)
        (free.shaderBound raw other) :=
      onStage_matches same (fun _ => rfl) fun given _ => bind_untold same unnamed given other
    exact bound.mapAnswer fun () => Reply.done
  | bind given other =>
    exact (bind_untold same unnamed given other).mapAnswer fun () => Reply.done
  | destroyed raw gone =>
    have destroyed : Untold stage handle ended (held.shaderDestroyed raw gone)
        (free.shaderDestroyed raw gone) :=
      onStage_matches same (fun _ => rfl) fun given _ => ⟨rfl, destroy_untold same given gone, rfl⟩
    exact destroyed.mapAnswer fun () => Reply.done
  | uploaded raw kind start count data =>
    have uploaded : Untold stage handle ended (held.constantsUploaded raw kind start count data)
        (free.constantsUploaded raw kind start count data) :=
      constantsUploaded_matches same (fun _ => rfl) (fun _ _ => rfl) fun given _ =>
        keep_untold same unnamed ⟨given, kind, start, count, data⟩
    exact uploaded.mapAnswer fun () => Reply.done
  | recordUpload given kind start count data =>
    exact (keep_untold same unnamed ⟨given, kind, start, count, data⟩).mapAnswer Reply.recorded
  | endPeriod =>
    exact ⟨rfl, { same with seen := rfl, preUi := id, period := fun _ => rfl }, rfl⟩
  | edit given fingerprint edit =>
    simp only [perform, same.registry]
    exact ⟨rfl, same.withRegistry _, rfl⟩
  | insert given fingerprint profile =>
    simp only [perform, same.registry]
    exact ⟨rfl, same.withRegistry _, rfl⟩
  | remove given fingerprint =>
    simp only [perform, same.registry]
    exact ⟨rfl, same.withRegistry _, rfl⟩
  | load files => exact (load_untold same files).mapAnswer Reply.loaded
  | save files => exact save_untold same files

theorem outcome_untold (same : SameBut stage handle ended held free)
    (unnamed : held.registry.fingerprint? stage handle = none) (action : Action) :
    Untold stage handle ended (held.outcome action) (free.outcome action) := by
  cases action with
  | call call => exact perform_untold same unnamed call
  | amend change =>
    simp only [outcome, same.registry]
    exact ⟨rfl, same.withRegistry _, rfl⟩

/-! ## Runs -/

theorem unnamed_act (tracker : Tracker) {action : Action}
    (unnamed : tracker.registry.fingerprint? stage handle = none)
    (still : ¬ (tracker.effect action).Names stage handle) :
    (tracker.act action).registry.fingerprint? stage handle = none := by
  rw [act_eq_apply]
  cases came : tracker.effect action with
  | registered other named given =>
    rw [came] at still
    have apart : ¬ (stage = other ∧ handle = named) := fun both => still ⟨both.1.symm, both.2.symm⟩
    exact (Registry.fingerprint?_assign ..).trans ((if_neg apart).trans unnamed)
  | destroyed other gone =>
    have forgotten := tracker.registry.fingerprint?_forget other stage gone handle
    rw [unnamed, ite_self] at forgotten
    exact forgotten
  | uploaded upload bound =>
    have frame : (tracker.apply (.uploaded upload bound)).registry.handles = _ :=
      (tracker.keep_frame upload).2.1
    rwa [Registry.fingerprint?, frame]
  | amended registry =>
    rw [came] at still
    exact not_not.mp still
  | nothing | bound | periodEnded | profiles => exact unnamed

/-- The first end of a period brings the two together about the UI pass. -/
theorem SameBut.act (same : SameBut stage handle ended held free)
    (unnamed : held.registry.fingerprint? stage handle = none) (action : Action) :
    SameBut stage handle (ended ∨ action.EndsPeriod) (held.act action) (free.act action) := by
  have next := (outcome_untold same unnamed action).state
  rw [outcome_state, outcome_state] at next
  refine { next with period := ?_ }
  rintro (past | ends)
  · exact next.period past
  · rw [act_of_endsPeriod _ ends, act_of_endsPeriod _ ends]
    rfl

theorem SameBut.when {past : Prop} (same : SameBut stage handle ended held free)
    (later : past → ended) : SameBut stage handle past held free :=
  { same with period := fun now => same.period (later now) }

theorem after_untold {actions : List Action} (same : SameBut stage handle ended held free)
    (unnamed : held.registry.fingerprint? stage handle = none)
    (still : ∀ effect ∈ free.effects actions, ¬ effect.Names stage handle) :
    SameBut stage handle (ended ∨ ∃ action ∈ actions, action.EndsPeriod) (held.after actions)
        (free.after actions) ∧
      (held.after actions).registry.fingerprint? stage handle = none ∧
      (free.transcript actions).map (·.reply) = (held.transcript actions).map (·.reply) ∧
      (free.transcript actions).map (·.events) = (held.transcript actions).map (·.events) := by
  induction actions generalizing held free ended with
  | nil => exact ⟨same.when (by simp), unnamed, rfl, rfl⟩
  | cons action rest ih =>
    have now := outcome_untold same unnamed action
    have next := same.act unnamed action
    have unnamedFree : free.registry.fingerprint? stage handle = none := by
      rwa [same.registry]
    have unnamedNext : (held.act action).registry.fingerprint? stage handle = none := by
      rw [← next.registry]
      exact free.unnamed_act unnamedFree (still _ List.mem_cons_self)
    obtain ⟨left, unnamedLeft, replies, events⟩ :=
      ih next unnamedNext fun effect mem => still effect (List.mem_cons_of_mem _ mem)
    have reports := now.events
    rw [List.map_id] at reports
    refine ⟨left.when ?_, unnamedLeft, congrArg₂ List.cons now.answer replies,
      congrArg₂ List.cons reports events⟩
    simp [or_assoc]

end

/-- To bind a handle that stands for nothing is as good as to bind nothing. As long as it does not
come to stand for a shader on the stage, all calls that follow give back and report the same, and
all questions have the same answers in between, but for the handle that is bound and for the UI
pass. That may have begun already where the handle is bound; once a period has ended, it has begun
for both or for neither. -/
theorem unnamed_binding_is_vacant (tracker : Tracker) {stage : Stage} {handle : Handle}
    (unnamed : tracker.registry.fingerprint? stage handle = none) {actions : List Action}
    (still : ∀ effect ∈ (tracker.unbind stage).effects actions, ¬ effect.Names stage handle) :
    let held := tracker.act (.call (.bind stage handle))
    let free := tracker.unbind stage
    (held.transcript actions).map (·.reply) = (free.transcript actions).map (·.reply) ∧
    (held.transcript actions).map (·.events) = (free.transcript actions).map (·.events) ∧
    ∀ before, before <+: actions →
      let held := held.after before
      let free := free.after before
      held.registry.profiles = free.registry.profiles ∧
      held.registry.handles = free.registry.handles ∧
      held.constants = free.constants ∧
      (∀ query, query ≠ .boundHandle stage → query ≠ .isPreUi → held.ask query = free.ask query) ∧
      (free.bindings.preUi = true → held.bindings.preUi = true) ∧
      ((∃ action ∈ before, action.EndsPeriod) → held.bindings.preUi = free.bindings.preUi) := by
  intro held free
  have same : SameBut stage handle False held free := by
    constructor
    case registry => rfl
    case constants => rfl
    case configuration => rfl
    case bindings =>
      intro shown
      change (tracker.bindings.current.set stage none).get shown =
          (tracker.bindings.current.set stage (some handle)).get shown ∨
        shown = stage ∧ (tracker.bindings.current.set stage (some handle)).get shown =
          some handle ∧ (tracker.bindings.current.set stage none).get shown = none
      by_cases here : shown = stage
      · subst here
        right
        exact ⟨rfl, PerStage.get_set_self .., PerStage.get_set_self ..⟩
      · left
        rw [PerStage.get_set_of_ne _ _ here, PerStage.get_set_of_ne _ _ here]
    case seen =>
      change tracker.bindings.seen = (tracker.bindings.bind tracker.registry stage handle).seen
      rw [Bindings.bind, unnamed]
    case preUi =>
      intro begun
      exact Bindings.preUi_bind .. |>.mpr (.inr begun)
    case period => exact False.elim
  obtain ⟨-, -, replies, events⟩ := after_untold same unnamed still
  refine ⟨replies.symm, events.symm, fun before earlier => ?_⟩
  obtain ⟨later, rfl⟩ := earlier
  have stillBefore : ∀ effect ∈ free.effects before, ¬ effect.Names stage handle := by
    intro effect mem
    apply still effect
    rw [effects_append]
    exact List.mem_append_left _ mem
  obtain ⟨left, unnamedLeft, -, -⟩ := after_untold same unnamed stillBefore
  refine ⟨?_, ?_, left.constants.symm, fun query notHandle notPreUi => ?_, left.preUi, ?_⟩
  · rw [left.registry]
  · rw [left.registry]
  · exact (left.ask_eq unnamedLeft notHandle notPreUi).symm
  · exact fun ended => (left.period (.inr ended)).symm

/-- The handle stands for a shader of the UI pass on the other stage, where it is bound. To bind it
here makes the pass begin, and its shader is destroyed in the run. -/
theorem vacant_binding_of_shared_handle :
    let tracker := (new ⟨"p", "d", false, 4096⟩).after [.call (.assign .pixel ⟨7⟩ ⟨3⟩),
      .call (.bind .pixel ⟨7⟩), .call (.edit .pixel ⟨3⟩ ⟨none, some .uiHook, none, none, none⟩)]
    let actions : List Action := [.call (.recordUpload .vertex .float 195 1 [1, 2, 3, 4]),
      .call (.destroyed ⟨0x1⟩ ⟨7⟩), .call .endPeriod]
    let held := tracker.act (.call (.bind .vertex ⟨7⟩))
    let free := tracker.unbind .vertex
    tracker.registry.fingerprint? .vertex ⟨7⟩ = none ∧
      (∀ effect ∈ free.effects actions, ¬ effect.Names .vertex ⟨7⟩) ∧
      held.bindings.preUi = true ∧ free.bindings.preUi = false ∧
      (held.after actions).constants = (free.after actions).constants ∧
      (held.after actions).bindings.preUi = (free.after actions).bindings.preUi := by
  intro tracker actions held free
  have unnamed : tracker.registry.fingerprint? .vertex ⟨7⟩ = none := by decide +kernel
  have shown : free.effects actions = [.uploaded ⟨.vertex, .float, 195, 1, [1, 2, 3, 4]⟩ none,
      .destroyed .vertex ⟨7⟩, .periodEnded] := rfl
  have still : ∀ effect ∈ free.effects actions, ¬ effect.Names .vertex ⟨7⟩ := by
    rw [shown]
    simp [Effect.Names]
  obtain ⟨-, -, along⟩ := unnamed_binding_is_vacant tracker unnamed still
  obtain ⟨-, -, constants, -, -, ended⟩ := along actions List.prefix_rfl
  refine ⟨unnamed, still, by decide +kernel, by decide +kernel, constants, ended ?_⟩
  exact ⟨.call .endPeriod, by simp [actions], trivial⟩

end Tracker

end ShaderIdentity
