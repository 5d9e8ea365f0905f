import ShaderIdentity.Text.Digits
import Mathlib.Data.List.Induction

/-! Decimal digits and numbers correspond one to one: a number reads back from its digits, and
digits without a leading zero are those of the number they make. -/
namespace ShaderIdentity.Text

theorem isDigit_of_mem_decimal {n : Nat} {c : Char} (mem : c ∈ decimal n) : c.isDigit = true :=
  Nat.isDigit_of_mem_toDigits (by decide) (by decide) mem

@[simp] theorem ofDigitChars_decimal (n : Nat) : Nat.ofDigitChars 10 (decimal n) 0 = n :=
  Nat.ofDigitChars_ten_toDigits

theorem decimal_injective {m n : Nat} (same : decimal m = decimal n) : m = n := by
  rw [← ofDigitChars_decimal m, same, ofDigitChars_decimal]

theorem decimal_step {n d : Nat} (positive : 0 < n) (digit : d < 10) :
    decimal (10 * n + d) = decimal n ++ [d.digitChar] := by
  rw [decimal, ← Nat.toDigits_append_toDigits (by decide) positive digit,
    Nat.toDigits_of_lt_base digit, decimal]

/-- No number but zero begins with a zero. -/
theorem head?_decimal_ne_zero {n : Nat} (positive : 0 < n) : (decimal n).head? ≠ some '0' := by
  induction n using Nat.base_induction 10 (by decide) with
  | single m small =>
    rw [decimal, Nat.toDigits_of_lt_base small]
    intro zero
    have : m = 0 := by simpa using zero
    omega
  | digit m d digit left ih =>
    rw [decimal_step left digit, List.head?_append]
    cases shown : decimal m with
    | nil => exact absurd shown Nat.toDigits_ne_nil
    | cons c rest => simpa [shown] using ih left

theorem digitChar_of_isDigit {c : Char} (digit : c.isDigit = true) :
    (c.toNat - '0'.toNat).digitChar = c ∧ c.toNat - '0'.toNat < 10 := by
  have bounds : 48 ≤ c.toNat ∧ c.toNat ≤ 57 := by
    simpa [Char.isDigit, UInt32.le_iff_toNat_le] using digit
  have all : ∀ n < 58, 48 ≤ n → (n - 48).digitChar = Char.ofNat n := by decide
  have read := all c.toNat (by omega) bounds.1
  rw [Char.ofNat_toNat] at read
  exact ⟨read, by change c.toNat - 48 < 10; omega⟩

/-- A number that begins with another digit than zero is positive. -/
theorem ofDigitChars_pos {digits : List Char} (nonempty : digits ≠ [])
    (all : ∀ c ∈ digits, c.isDigit = true) (lead : digits.head? ≠ some '0') :
    0 < Nat.ofDigitChars 10 digits 0 := by
  cases digits with
  | nil => exact absurd rfl nonempty
  | cons c rest =>
    have read := digitChar_of_isDigit (all c (by simp))
    have positive : 0 < c.toNat - '0'.toNat := by
      rcases Nat.eq_zero_or_pos (c.toNat - '0'.toNat) with zero | positive
      · rw [zero] at read
        exact absurd (congrArg some read.1.symm) lead
      · exact positive
    rw [Nat.ofDigitChars_cons, Nat.mul_zero, Nat.zero_add, Nat.ofDigitChars_eq_ofDigitChars_zero]
    have scaled : 0 < 10 ^ rest.length * (c.toNat - '0'.toNat) :=
      Nat.mul_pos (Nat.pow_pos (by decide)) positive
    omega

theorem decimal_ofDigitChars {digits : List Char} (nonempty : digits ≠ [])
    (all : ∀ c ∈ digits, c.isDigit = true) (lead : digits = ['0'] ∨ digits.head? ≠ some '0') :
    decimal (Nat.ofDigitChars 10 digits 0) = digits := by
  rcases lead with rfl | lead
  · rfl
  induction digits using List.reverseRecOn with
  | nil => exact absurd rfl nonempty
  | append_singleton init last ih =>
    have read := digitChar_of_isDigit (all last (by simp))
    rw [Nat.ofDigitChars_append, Nat.ofDigitChars_cons, Nat.ofDigitChars_nil]
    by_cases first : init = []
    · subst first
      rw [Nat.ofDigitChars_nil, Nat.mul_zero, Nat.zero_add, decimal,
        Nat.toDigits_of_lt_base read.2, read.1, List.nil_append]
    · have lead : init.head? ≠ some '0' := by
        cases init with
        | nil => exact absurd rfl first
        | cons c rest => simpa using lead
      have others : ∀ c ∈ init, c.isDigit = true := fun c mem => all c (by simp [mem])
      rw [decimal_step (ofDigitChars_pos first others lead) read.2, ih first others lead, read.1]

end ShaderIdentity.Text
