import Mathlib.Data.List.Forall2
import ShaderIdentity.Proofs.Tracking.Actions

/-! What a host is told in the course of a run, and how two runs are compared: step by step, by a
relation between the trackers that every step keeps. -/
namespace ShaderIdentity

/-- An action with what it came to. -/
structure Turn where
  action : Action
  outcome : Outcome Tracker Reply

namespace Turn

def reply (turn : Turn) : Reply :=
  turn.outcome.answer

def events (turn : Turn) : List Event :=
  turn.outcome.events

end Turn

/-- The answers are the same, so are the events once they are relabelled, and the states that are
left are related. -/
structure Outcome.Matches {σ α : Type} (related : σ → σ → Prop) (relabel : Event → Event)
    (first second : Outcome σ α) : Prop where
  answer : second.answer = first.answer
  state : related first.state second.state
  events : second.events = first.events.map relabel

theorem Outcome.Matches.mapAnswer {σ α β : Type} {related : σ → σ → Prop} {relabel : Event → Event}
    {first second : Outcome σ α} (same : first.Matches related relabel second) (f : α → β) :
    (first.mapAnswer f).Matches related relabel (second.mapAnswer f) :=
  ⟨congrArg f same.answer, same.state, same.events⟩

namespace Tracker

variable (tracker : Tracker)

/-- What an action comes to. When the host changes the registry by itself, nothing is answered and
nothing reported. -/
def outcome : Action → Outcome Tracker Reply
  | .call call => tracker.perform call
  | .amend change => ⟨.done, { tracker with registry := change tracker.registry }, []⟩

/-- The turns of a run, in order. -/
def transcript (tracker : Tracker) : List Action → List Turn
  | [] => []
  | action :: rest => ⟨action, tracker.outcome action⟩ :: (tracker.act action).transcript rest

theorem outcome_state (action : Action) :
    (tracker.outcome action).state = tracker.act action := by
  cases action <;> rfl

section
variable {related : Tracker → Tracker → Prop} {relabel : Event → Event} {first second : Tracker}

theorem onStage_matches {α : Type} {raw : RawStage} {refused : CallError → α}
    {call other : Stage → Outcome Tracker α} (now : related first second)
    (plain : ∀ err, relabel (.callIgnored err) = .callIgnored err)
    (named : ∀ stage, raw.stage? = some stage →
      (call stage).Matches related relabel (other stage)) :
    (first.onStage raw refused call).Matches related relabel
      (second.onStage raw refused other) := by
  unfold onStage
  cases shown : raw.stage? with
  | none => exact ⟨rfl, now, by simp [plain]⟩
  | some stage => exact named stage shown

theorem constantsUploaded_matches {raw : RawStage} {kind : ConstantKind} {start count : UInt32}
    {data : List UInt32} (now : related first second)
    (ignored : ∀ err, relabel (.callIgnored err) = .callIgnored err)
    (dropped : ∀ stage err, relabel (.uploadDropped stage kind start count err) =
      .uploadDropped stage kind start count err)
    (named : ∀ stage, raw.stage? = some stage →
      (first.recordUpload stage kind start count data).Matches related relabel
        (second.recordUpload stage kind start count data)) :
    (first.constantsUploaded raw kind start count data).Matches related relabel
      (second.constantsUploaded raw kind start count data) := by
  refine onStage_matches now ignored fun stage shown => ?_
  have recorded := named stage shown
  constructor
  case answer => rfl
  case state => exact recorded.state
  case events =>
    simp only [recorded.answer, recorded.events, List.map_append]
    congr 1
    split
    · rfl
    · rw [List.map_singleton, dropped]

/-- When every step of one run matches the step of another, so do the whole runs. -/
theorem transcript_matches {same : Action → Action → Prop}
    (step : ∀ first second, related first second → ∀ action other, same action other →
      (first.outcome action).Matches related relabel (second.outcome other))
    (start : related first second) {actions others : List Action}
    (all : List.Forall₂ same actions others) :
    related (first.after actions) (second.after others) ∧
      (second.transcript others).map (·.reply) = (first.transcript actions).map (·.reply) ∧
      (second.transcript others).map (·.events) =
        (first.transcript actions).map (·.events.map relabel) := by
  induction all generalizing first second with
  | nil => exact ⟨start, rfl, rfl⟩
  | @cons action other rest others head _ ih =>
    have now := step first second start action other head
    have next := now.state
    rw [outcome_state, outcome_state] at next
    obtain ⟨left, replies, events⟩ := ih next
    exact ⟨left, congrArg₂ List.cons now.answer replies, congrArg₂ List.cons now.events events⟩

end

end Tracker

end ShaderIdentity
