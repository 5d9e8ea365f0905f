import ShaderIdentity.Json.Decoder

/-! What the forms make of a value. -/
namespace ShaderIdentity.Json

theorem ok_bind {ε α β : Type} (a : α) (f : α → Except ε β) : (Except.ok a >>= f) = f a := rfl

theorem ok_of_bind {ε α β : Type} {first : Except ε α} {next : α → Except ε β} {b : β}
    (done : (first >>= next) = .ok b) : ∃ a, first = .ok a ∧ next a = .ok b := by
  cases first with
  | error err => cases done
  | ok a => exact ⟨a, rfl, done⟩

namespace Decoder

variable {α β σ : Type}

@[simp] theorem map_ofValue (f : α → β) (decoder : Decoder α) (value : Value) :
    (decoder.map f).ofValue value = f <$> decoder.ofValue value := rfl

/-- A member that names a field fills it with what its value decodes to. -/
theorem fillMember_ok {fields : List (RecordField σ)} {name : String} {decoder : Decoder α}
    {value : Value} {a : α} (fill : σ → α → σ)
    (named : fields.find? (fun other => other.name = name) = some (field name decoder fill))
    (decoded : decoder.ofValue value = .ok a) (record : σ) :
    fillMember fields record (name, value) = .ok (fill record a) := by
  have read : (field name decoder fill).ofValue record value =
      fill record <$> decoder.ofValue value := rfl
  rw [fillMember, named]
  exact read.trans (congrArg (fill record <$> ·) decoded)

theorem record_ofValue_object (form : String) (fields : List (RecordField σ)) (start : σ)
    (members : List (String × Value)) :
    (record form fields start).ofValue (.object members) = members.foldlM (fillMember fields) start :=
  rfl

@[simp] theorem boolean_ofValue (b : Bool) : boolean.ofValue (.boolean b) = .ok b := rfl

theorem whole_ofValue {bound n : Nat} (fits : n < bound) (form : String) :
    (whole bound form).ofValue (.number (.integer n)) = .ok n := by
  have within : 0 ≤ (n : Int) ∧ (n : Int) < bound :=
    ⟨Int.natCast_nonneg n, Int.ofNat_lt.mpr fits⟩
  simp only [whole, wholeNumber, if_pos within, Int.toNat_natCast]

@[simp] theorem word32_ofValue (word : UInt32) :
    word32.ofValue (.number (.integer word.toNat)) = .ok word := by
  rw [word32, map_ofValue, whole_ofValue word.toNat_lt]
  exact congrArg Except.ok UInt32.ofNat_toNat

/-- A list decodes from the array of its items when every item decodes from its value. -/
theorem sequence_ofValue {item : Decoder α} {toValue : α → Value}
    (back : ∀ a, item.ofValue (toValue a) = .ok a) (list : List α) :
    (sequence item).ofValue (.array (list.map toValue)) = .ok list := by
  change (list.map toValue).mapM item.ofValue = .ok list
  induction list with
  | nil => rfl
  | cons a rest ih =>
    rw [List.map_cons, List.mapM_cons, back, ok_bind, ih]
    rfl

end Decoder

end ShaderIdentity.Json
