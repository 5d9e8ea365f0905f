import ShaderIdentity.Number.Shortest
import ShaderIdentity.Proofs.Json.NumeralText

/-! Numbers and their numerals. An integer is read from a numeral that writes it when it fits 64
bits, and what is written for a float is a numeral with a point or an exponent. -/
namespace ShaderIdentity.Json

open Text

/-- The integers that are kept exactly: those of 64 bits, with or without a sign. -/
def Fits64 (n : Int) : Prop :=
  -(Numeral.greatestNegated : Int) ≤ n ∧ n < UInt64.size

namespace Numeral

/-! ## Integers -/

/-- The numeral is a way to write the integer: without a point and an exponent, and zero without a
minus. -/
structure Integral (numeral : Numeral) (n : Int) : Prop where
  noFraction : numeral.fraction = none
  noExponent : numeral.exponent = none
  value : (if numeral.negative then -(Nat.ofDigitChars 10 numeral.whole 0 : Int)
    else Nat.ofDigitChars 10 numeral.whole 0) = n
  signless : numeral.negative = true → n ≠ 0

/-- An integer is read from a numeral that writes it, and only while it fits 64 bits. -/
theorem number_eq_integer {numeral : Numeral} {rest : List Char} {n : Int} :
    numeral.number rest = .ok (.integer n) ↔ numeral.Integral n ∧ Fits64 n := by
  obtain ⟨negative, whole, fraction, exponent⟩ := numeral
  have noFloat (float : Except Failure Binary64) : (.float <$> float) ≠ .ok (Number.integer n) := by
    cases float <;> simp [Functor.map, Except.map]
  constructor
  · intro read
    simp only [number] at read
    split at read
    case isFalse => exact absurd read (noFloat _)
    case isTrue plain =>
      simp only [Bool.and_eq_true, Option.isNone_iff_eq_none] at plain
      split at read
      case isTrue unsigned =>
        cases read
        simp only [Bool.and_eq_true, Bool.not_eq_true', decide_eq_true_eq] at unsigned
        exact ⟨⟨plain.1, plain.2, by simp [unsigned.1], by simp [unsigned.1]⟩, by omega, by omega⟩
      case isFalse =>
        split at read
        case isFalse => exact absurd read (noFloat _)
        case isTrue signed =>
          cases read
          simp only [Bool.and_eq_true, decide_eq_true_eq] at signed
          exact ⟨⟨plain.1, plain.2, by simp [signed.1.1], fun _ => by omega⟩, by omega, by omega⟩
  · rintro ⟨⟨noFraction, noExponent, value, signless⟩, low, high⟩
    simp only at noFraction noExponent value signless
    subst noFraction noExponent
    cases negative with
    | false =>
      rw [if_neg Bool.false_ne_true] at value
      have small : Nat.ofDigitChars 10 whole 0 < UInt64.size := by omega
      simp [number, small, value]
    | true =>
      rw [if_pos rfl] at value
      have nonzero : Nat.ofDigitChars 10 whole 0 ≠ 0 := by
        have := signless rfl
        omega
      have small : Nat.ofDigitChars 10 whole 0 ≤ greatestNegated := by omega
      simp [number, nonzero, small, value]

/-- The numeral that is written for an integer. -/
def ofInteger (n : Int) : Numeral :=
  ⟨n < 0, decimal n.natAbs, none, none⟩

theorem ofInteger_proper (n : Int) : (ofInteger n).Proper := by
  refine ⟨decimal_digits _, ?_, by rintro _ ⟨⟩, by rintro _ ⟨⟩⟩
  rcases Nat.eq_zero_or_pos n.natAbs with zero | positive
  · exact .inl (by rw [ofInteger, zero]; rfl)
  · exact .inr (head?_decimal_ne_zero positive)

theorem ofInteger_integral (n : Int) : (ofInteger n).Integral n := by
  refine ⟨rfl, rfl, ?_, fun negative => ?_⟩
  · simp only [ofInteger, ofDigitChars_decimal, decide_eq_true_eq]
    split <;> omega
  · have := of_decide_eq_true negative
    omega

theorem writeInteger_text (n : Int) : writeInteger n = (ofInteger n).text := by
  simp [writeInteger, text, ofInteger, fractionText, exponentText]

/-! ## Floats -/

/-- The text that is written for decimal digits is that of a numeral with a point or an exponent. -/
theorem writeDecimal_text {digits : List Char} (all : Digits digits) {power : Int}
    (lead : digits = ['0'] ∧ power = 0 ∨ digits.head? ≠ some '0') (negative : Bool) :
    ∃ whole fraction exponent, Proper ⟨negative, whole, fraction, exponent⟩ ∧
      (fraction.isSome ∨ exponent.isSome) ∧
      writeDecimal digits power = whole ++ (fractionText fraction ++ exponentText exponent) := by
  have zero : Digits ['0'] := decimal_digits 0
  have leads : ∀ count, digits.take (count + 1) = ['0'] ∨
      (digits.take (count + 1)).head? ≠ some '0' := by
    intro count
    rcases lead with ⟨rfl, -⟩ | lead
    · exact .inl (by simp)
    · exact .inr (by simpa [List.head?_take] using lead)
  simp only [writeDecimal]
  generalize below : power + digits.length - 1 = exponent
  split
  · split
    · -- zeros behind the digits, and a fraction of zero
      refine ⟨digits ++ List.replicate power.toNat '0', some ['0'], none,
        ⟨all.append_zeros _, ?_, by rintro _ ⟨⟩; exact zero, by rintro _ ⟨⟩⟩, .inl rfl,
        by simp [fractionText, exponentText]⟩
      rcases lead with ⟨rfl, rfl⟩ | lead
      · exact .inl rfl
      · exact .inr (by simpa [List.head?_append, all.nonempty] using lead)
    · split
      · -- the point stands among the digits
        exact ⟨digits.take (exponent.toNat + 1), some (digits.drop (exponent.toNat + 1)), none,
          ⟨all.take _, leads _, by rintro _ ⟨⟩; exact all.drop (by omega), by rintro _ ⟨⟩⟩,
          .inl rfl, by simp [fractionText, exponentText]⟩
      · -- zeros before the digits
        exact ⟨['0'], some (List.replicate (-exponent - 1).toNat '0' ++ digits), none,
          ⟨zero, .inl rfl, by rintro _ ⟨⟩; exact all.zeros_append _, by rintro _ ⟨⟩⟩, .inl rfl,
          by simp [fractionText, exponentText]⟩
  · refine ⟨digits.take 1, if digits.length = 1 then none else some (digits.drop 1),
      some (exponent < 0, decimal exponent.natAbs), ⟨all.take 0, leads 0, ?_, ?_⟩, .inr rfl, ?_⟩
    · intro shown mem
      split at mem
      · cases mem
      · cases mem
        have := List.length_pos_iff.mpr all.nonempty
        exact all.drop (by omega)
    · rintro _ ⟨⟩
      exact decimal_digits _
    · split
      · rename_i one
        have none_left : digits.drop 1 = [] := List.drop_eq_nil_of_le (Nat.le_of_eq one)
        simp [fractionText, exponentText, none_left]
      · simp [fractionText, exponentText, *]

/-- What lies on a grid and rounds to a number that is not zero is not zero. -/
theorem digits_pos {x : Binary64} (nonzero : x.mantissa ≠ 0) {power : Int}
    {decimal : Binary64.Decimal} (found : x.onGrid? power = some decimal) : 0 < decimal.digits := by
  simp only [Binary64.onGrid?] at found
  obtain ⟨digits, chosen, rfl⟩ := Option.map_eq_some_iff.mp found
  have rounds := List.find?_some chosen
  rw [decide_eq_true_eq] at rounds
  have unit_pos : 0 < Nat.pow 10 (-power).toNat <<< (x.exponent - 2).toNat := by
    rw [Nat.shiftLeft_eq]
    exact Nat.mul_pos (Nat.pow_pos (by decide)) (Nat.two_pow_pos _)
  have below_pos : 0 < if x.mantissa = Binary64.leastNormal ∧ Binary64.leastExponent < x.exponent
      then 4 * x.mantissa - 1 else 4 * x.mantissa - 2 := by
    split <;> omega
  have low_pos := Nat.mul_pos below_pos unit_pos
  -- Zero lies below the interval of what rounds to the number.
  refine Nat.pos_of_ne_zero fun (zero : digits = 0) => ?_
  rw [zero, Nat.zero_mul] at rounds
  split at rounds
  · exact absurd rounds.1 (Nat.not_le_of_lt low_pos)
  · exact absurd rounds.1 (Nat.not_lt_zero _)

theorem shortest_lead {x : Binary64} (nonzero : x.mantissa ≠ 0) :
    decimal x.shortest.digits = ['0'] ∧ x.shortest.power = 0 ∨
      (decimal x.shortest.digits).head? ≠ some '0' := by
  unfold Binary64.shortest
  cases found : (List.range 640).findSome? fun (i : Nat) => x.onGrid? (309 - i) with
  | none => exact .inl ⟨rfl, rfl⟩
  | some decimal =>
    obtain ⟨_, -, onGrid⟩ := List.exists_of_findSome?_eq_some found
    exact .inr (head?_decimal_ne_zero (digits_pos nonzero onGrid))

/-- The text of a float is that of a numeral which has a fraction or an exponent. -/
theorem writeFloat_text (x : Binary64) :
    ∃ numeral : Numeral, numeral.Proper ∧ (numeral.fraction.isSome ∨ numeral.exponent.isSome) ∧
      writeFloat x = numeral.text := by
  by_cases zero : x.mantissa = 0
  · have digits : Digits ['0'] := decimal_digits 0
    refine ⟨⟨x.negative, ['0'], some ['0'], none⟩,
      ⟨digits, .inl rfl, by rintro _ ⟨⟩; exact digits, by rintro _ ⟨⟩⟩, .inl rfl, ?_⟩
    simp [writeFloat, zero, text, fractionText, exponentText]
  · obtain ⟨whole, fraction, exponent, proper, parts, shown⟩ :=
      writeDecimal_text (decimal_digits x.shortest.digits) (shortest_lead zero) x.negative
    exact ⟨_, proper, parts, by simp only [writeFloat, zero, if_false, shown, text]⟩

end Numeral

end ShaderIdentity.Json
