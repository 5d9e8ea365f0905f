import Mathlib.Data.List.Induction

/-! Histories, oldest event first. What holds at the end of one often goes back to the last event
of some kind. -/
namespace ShaderIdentity.History

variable {ε : Type}

/-- Such an event occurred, given those before it, and no event since has ended it. -/
def Since (such : List ε → ε → Prop) (ended : ε → Prop) (history : List ε) : Prop :=
  ∃ before event after, history = before ++ event :: after ∧ such before event ∧
    ∀ later ∈ after, ¬ ended later

/-- The event is the last one that concerns the matter. -/
def Last (concerns : ε → Prop) (event : ε) : List ε → Prop :=
  Since (fun _ other => other = event) concerns

variable {such : List ε → ε → Prop} {ended : ε → Prop}

theorem Last.mem {concerns : ε → Prop} {event : ε} {history : List ε}
    (last : Last concerns event history) : event ∈ history := by
  obtain ⟨before, event, after, rfl, rfl, -⟩ := last
  exact List.mem_append_right _ List.mem_cons_self

theorem not_since_nil : ¬ Since such ended [] := by
  rintro ⟨before, event, after, split, -⟩
  exact absurd split (by simp)

theorem since_snoc (history : List ε) (last : ε) :
    Since such ended (history ++ [last]) ↔
      such history last ∨ ¬ ended last ∧ Since such ended history := by
  constructor
  · rintro ⟨before, event, after, split, made, goesOn⟩
    induction after using List.reverseRecOn with
    | nil =>
      obtain ⟨rfl, same⟩ := List.append_inj' split rfl
      rw [List.singleton_inj] at same
      rw [same]
      exact .inl made
    | append_singleton after newest _ =>
      have regrouped : history ++ [last] = (before ++ event :: after) ++ [newest] := by
        rw [split, List.append_assoc, List.cons_append]
      obtain ⟨split, same⟩ := List.append_inj' regrouped rfl
      rw [List.singleton_inj] at same
      rw [same]
      refine .inr ⟨goesOn newest (by simp), before, event, after, split, made, ?_⟩
      intro later mem
      exact goesOn later (List.mem_append_left _ mem)
  · rintro (made | ⟨lives, before, event, after, rfl, made, goesOn⟩)
    · exact ⟨history, last, [], rfl, made, by simp⟩
    · refine ⟨before, event, after ++ [last], by simp, made, ?_⟩
      intro later mem
      rcases List.mem_append.mp mem with earlier | newest
      · exact goesOn later earlier
      · rw [List.mem_singleton.mp newest]
        exact lives

/-- What starts out false, comes true by such events, and stays true until one ends it. -/
theorem iff_since (holds : List ε → Prop) (start : ¬ holds [])
    (step : ∀ history last,
      holds (history ++ [last]) ↔ such history last ∨ ¬ ended last ∧ holds history)
    (history : List ε) : holds history ↔ Since such ended history := by
  induction history using List.reverseRecOn with
  | nil => exact iff_of_false start not_since_nil
  | append_singleton history last ih => rw [step, since_snoc, ih]

end ShaderIdentity.History
