import ShaderIdentity.Shader.Fingerprint
import ShaderIdentity.Proofs.Text.DigitLaws

/-! A fingerprint has one text, and nothing else reads as one. -/
namespace ShaderIdentity.Fingerprint

open Text

theorem text_injective {a b : Fingerprint} (same : a.text = b.text) : a = b := by
  have digits : decimal a.code.toNat = decimal b.code.toNat := String.ofList_injective same
  cases a; cases b
  exact congrArg mk (UInt32.toNat_inj.mp (decimal_injective digits))

@[simp] theorem parse_text (fingerprint : Fingerprint) : parse fingerprint.text = .ok fingerprint := by
  have fits : fingerprint.code.toNat < UInt32.size := fingerprint.code.toNat_lt
  have nonempty : decimal fingerprint.code.toNat ≠ [] := Nat.toDigits_ne_nil
  have all : ∀ c ∈ decimal fingerprint.code.toNat, c.isDigit = true :=
    fun _ => isDigit_of_mem_decimal
  have lead : decimal fingerprint.code.toNat = ['0'] ∨
      (decimal fingerprint.code.toNat).head? ≠ some '0' := by
    rcases Nat.eq_zero_or_pos fingerprint.code.toNat with zero | positive
    · exact .inl (by rw [zero]; rfl)
    · exact .inr (head?_decimal_ne_zero positive)
  simp only [parse, text, String.toList_ofList, ofDigitChars_decimal]
  rw [if_pos]
  · rw [UInt32.ofNat_toNat]
  · simpa [nonempty, fits] using ⟨all, lead⟩

theorem text_of_parse {given : String} {fingerprint : Fingerprint}
    (read : parse given = .ok fingerprint) : fingerprint.text = given := by
  simp only [parse] at read
  split at read
  · rename_i canonical
    cases read
    obtain ⟨⟨⟨nonempty, all⟩, lead⟩, fits⟩ :
        ((given.toList ≠ [] ∧ ∀ c ∈ given.toList, c.isDigit = true) ∧
          (given.toList = ['0'] ∨ given.toList.head? ≠ some '0')) ∧
          Nat.ofDigitChars 10 given.toList 0 < UInt32.size := by
      simpa using canonical
    rw [text, UInt32.toNat_ofNat_of_lt' fits, decimal_ofDigitChars nonempty all lead,
      String.ofList_toList]
  · exact absurd read (by simp)

end ShaderIdentity.Fingerprint
