import ShaderIdentity.Tracking.Event

namespace ShaderIdentity

/-- What a step gives back, the state it leaves, and what it reports. -/
structure Outcome (σ α : Type) where
  answer : α
  state : σ
  events : List Event

def Outcome.mapAnswer {σ α β : Type} (f : α → β) (outcome : Outcome σ α) : Outcome σ β :=
  ⟨f outcome.answer, outcome.state, outcome.events⟩

end ShaderIdentity
