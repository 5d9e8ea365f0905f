import Mathlib.Data.List.TakeWhile
import ShaderIdentity.Json.Numeral
import ShaderIdentity.Proofs.Json.DecoderLaws
import ShaderIdentity.Proofs.Text.DigitLaws

/-! The texts of numerals. A numeral is read from its text if what follows cannot continue it, and
reading takes at least a character. -/
namespace ShaderIdentity.Json

open Text

/-- A number that stands before `rest` is not continued by it. -/
def EndsNumeral (rest : List Char) : Prop :=
  ∀ c, rest.head? = some c → c.isDigit = false ∧ c ≠ '.' ∧ c ≠ 'e' ∧ c ≠ 'E'

theorem endsNumeral_nil : EndsNumeral [] := by
  intro c begins
  cases begins

/-- No digit stands at the start. -/
def EndsDigits (rest : List Char) : Prop :=
  ∀ c, rest.head? = some c → c.isDigit = false

theorem EndsNumeral.endsDigits {rest : List Char} (ends : EndsNumeral rest) : EndsDigits rest :=
  fun c begins => (ends c begins).1

theorem endsDigits_cons {c : Char} (other : c.isDigit = false) (s : List Char) :
    EndsDigits (c :: s) := by
  rintro _ ⟨⟩
  exact other

/-- Digits only, one of them at least. -/
structure Digits (s : List Char) : Prop where
  nonempty : s ≠ []
  all : ∀ c ∈ s, c.isDigit = true

theorem decimal_digits (n : Nat) : Digits (decimal n) :=
  ⟨Nat.toDigits_ne_nil, fun _ => isDigit_of_mem_decimal⟩

theorem Digits.append_zeros {s : List Char} (digits : Digits s) (count : Nat) :
    Digits (s ++ List.replicate count '0') := by
  refine ⟨by simp [digits.nonempty], fun c mem => ?_⟩
  rcases List.mem_append.mp mem with here | zero
  · exact digits.all c here
  · rw [List.eq_of_mem_replicate zero]
    rfl

theorem Digits.zeros_append {s : List Char} (digits : Digits s) (count : Nat) :
    Digits (List.replicate count '0' ++ s) := by
  refine ⟨by simp [digits.nonempty], fun c mem => ?_⟩
  rcases List.mem_append.mp mem with zero | here
  · rw [List.eq_of_mem_replicate zero]
    rfl
  · exact digits.all c here

theorem Digits.take {s : List Char} (digits : Digits s) (count : Nat) :
    Digits (s.take (count + 1)) :=
  ⟨by simp [digits.nonempty], fun c mem => digits.all c (List.mem_of_mem_take mem)⟩

theorem Digits.drop {s : List Char} (digits : Digits s) {count : Nat} (short : count < s.length) :
    Digits (s.drop count) :=
  ⟨by simpa using short, fun c mem => digits.all c (List.mem_of_mem_drop mem)⟩

namespace Numeral

/-! ## Numerals and their texts -/

/-- Every part has its digits, and those before the point do not begin with a needless zero. -/
structure Proper (numeral : Numeral) : Prop where
  whole : Digits numeral.whole
  lead : numeral.whole = ['0'] ∨ numeral.whole.head? ≠ some '0'
  fraction : ∀ digits ∈ numeral.fraction, Digits digits
  exponent : ∀ exponent ∈ numeral.exponent, Digits exponent.2

def fractionText : Option (List Char) → List Char
  | none => []
  | some digits => '.' :: digits

def exponentText : Option (Bool × List Char) → List Char
  | none => []
  | some (negative, digits) => 'e' :: (if negative then '-' else '+') :: digits

def text (numeral : Numeral) : List Char :=
  (if numeral.negative then ['-'] else []) ++ (numeral.whole ++
    (fractionText numeral.fraction ++ exponentText numeral.exponent))

variable (ended : Fault) {rest : List Char}

theorem span_digits {s : List Char} (digits : Digits s) (ends : EndsDigits rest) :
    (s ++ rest).takeWhile Char.isDigit = s ∧ (s ++ rest).dropWhile Char.isDigit = rest := by
  have stops : rest.takeWhile Char.isDigit = [] ∧ rest.dropWhile Char.isDigit = rest := by
    cases rest with
    | nil => exact ⟨rfl, rfl⟩
    | cons c _ => simp [ends c rfl]
  exact ⟨by rw [List.takeWhile_append_of_pos digits.all, stops.1, List.append_nil],
    by rw [List.dropWhile_append_of_pos digits.all, stops.2]⟩

theorem readDigits_digits {s : List Char} (digits : Digits s) (ends : EndsDigits rest) :
    readDigits ended (s ++ rest) = .ok (s, rest) := by
  obtain ⟨taken, left⟩ := span_digits digits ends
  cases s with
  | nil => exact absurd rfl digits.nonempty
  | cons c others =>
    have digit : c.isDigit = true := digits.all c List.mem_cons_self
    rw [List.cons_append] at taken left ⊢
    simp only [readDigits, digit, if_true, taken, left]

theorem readWhole_digits {s : List Char} (digits : Digits s)
    (lead : s = ['0'] ∨ s.head? ≠ some '0') (ends : EndsDigits rest) :
    readWhole ended (s ++ rest) = .ok (s, rest) := by
  obtain ⟨taken, left⟩ := span_digits digits ends
  rcases lead with rfl | lead
  · have behind : (rest.head?.map Char.isDigit).getD false = false := by
      cases rest with
      | nil => rfl
      | cons c _ => exact ends c rfl
    simp [readWhole, behind]
  · cases s with
    | nil => exact absurd rfl digits.nonempty
    | cons c others =>
      have nonzero : c ≠ '0' := fun zero => lead (congrArg some zero)
      have digit : c.isDigit = true := digits.all c List.mem_cons_self
      rw [List.cons_append] at taken left ⊢
      simp only [readWhole, digit, if_true, taken, left]

theorem readExponent_ends (ends : EndsNumeral rest) :
    readExponent ended rest = .ok (none, rest) := by
  cases rest with
  | nil => rfl
  | cons c rest =>
    obtain ⟨-, -, small, capital⟩ := ends c rfl
    simp only [readExponent, small, capital, or_self, if_false]

theorem readExponent_text {exponent : Option (Bool × List Char)}
    (digits : ∀ given ∈ exponent, Digits given.2) (ends : EndsNumeral rest) :
    readExponent ended (exponentText exponent ++ rest) = .ok (exponent, rest) := by
  match exponent with
  | none => exact readExponent_ends ended ends
  | some (negative, shown) =>
    have read := readDigits_digits ended (digits _ rfl) ends.endsDigits
    cases negative <;>
      simp [exponentText, readExponent, readSign, read, bind, Except.bind, pure, Except.pure]

/-- An exponent, or what ends the numeral, is not taken for a fraction. -/
theorem readFraction_none {s : List Char} (point : s.head? ≠ some '.') :
    readFraction ended s = .ok (none, s) := by
  unfold readFraction
  split
  · exact absurd rfl point
  · rfl

theorem exponentText_begins (exponent : Option (Bool × List Char)) (ends : EndsNumeral rest) :
    EndsDigits (exponentText exponent ++ rest) ∧
      (exponentText exponent ++ rest).head? ≠ some '.' := by
  match exponent with
  | none => exact ⟨ends.endsDigits, fun point => (ends '.' point).2.1 rfl⟩
  | some (_, _) => exact ⟨endsDigits_cons rfl _, by simp [exponentText]⟩

theorem readFraction_text {fraction : Option (List Char)}
    (digits : ∀ given ∈ fraction, Digits given) (exponent : Option (Bool × List Char))
    (ends : EndsNumeral rest) :
    readFraction ended (fractionText fraction ++ (exponentText exponent ++ rest)) =
      .ok (fraction, exponentText exponent ++ rest) := by
  obtain ⟨endsDigits, point⟩ := exponentText_begins exponent ends
  match fraction with
  | none => exact readFraction_none ended point
  | some shown =>
    have read := readDigits_digits ended (digits shown rfl) endsDigits
    simp only [fractionText, List.cons_append, readFraction, read, bind, Except.bind, pure,
      Except.pure]

/-- A numeral behind its sign. -/
def readUnsigned (ended : Fault) (negative : Bool) (s : List Char) :
    Except Failure (Numeral × List Char) := do
  let (whole, s) ← readWhole ended s
  let (fraction, s) ← readFraction ended s
  let (exponent, s) ← readExponent ended s
  return (⟨negative, whole, fraction, exponent⟩, s)

theorem read_minus (s : List Char) : read ended ('-' :: s) = readUnsigned ended true s := rfl

theorem read_unsigned {s : List Char} (unsigned : ∀ t, s ≠ '-' :: t) :
    read ended s = readUnsigned ended false s := by
  simp only [read, readUnsigned]

/-- A numeral is read from its text, whatever follows that does not continue it. -/
theorem read_text {numeral : Numeral} (proper : numeral.Proper) (ends : EndsNumeral rest) :
    read ended (numeral.text ++ rest) = .ok (numeral, rest) := by
  obtain ⟨negative, whole, fraction, exponent⟩ := numeral
  obtain ⟨digits, lead, fractionDigits, exponentDigits⟩ := proper
  simp only at digits lead fractionDigits exponentDigits
  have endsWhole : EndsDigits (fractionText fraction ++ (exponentText exponent ++ rest)) := by
    match fraction with
    | none => exact (exponentText_begins exponent ends).1
    | some _ => exact endsDigits_cons rfl _
  have unsigned : readUnsigned ended negative
      (whole ++ (fractionText fraction ++ (exponentText exponent ++ rest))) =
        .ok (⟨negative, whole, fraction, exponent⟩, rest) := by
    simp only [readUnsigned, readWhole_digits ended digits lead endsWhole,
      readFraction_text ended fractionDigits exponent ends,
      readExponent_text ended exponentDigits ends, ok_bind]
    rfl
  simp only [text, List.append_assoc]
  cases negative with
  | true => exact unsigned
  | false =>
    rw [if_neg Bool.false_ne_true, List.nil_append, read_unsigned, unsigned]
    intro t signed
    cases whole with
    | nil => exact digits.nonempty rfl
    | cons c _ =>
      rw [List.cons_append, List.cons.injEq] at signed
      exact absurd (digits.all c List.mem_cons_self) (by rw [signed.1]; decide)

/-! ## What is read

Which fault a text gives that ends too early has no say in what is read from others. -/

variable {ended} {s digits : List Char}

theorem readDigits_ok (read : readDigits ended s = .ok (digits, rest)) :
    (∀ other, readDigits other s = .ok (digits, rest)) ∧ rest.length < s.length := by
  cases s with
  | nil => cases read
  | cons c others =>
    refine ⟨fun _ => read, ?_⟩
    rw [readDigits] at read
    split at read
    · rename_i digit
      cases read
      rw [List.dropWhile_cons_of_pos digit, List.length_cons]
      exact Nat.lt_succ_of_le (List.length_dropWhile_le _ _)
    · cases read

theorem readWhole_ok (read : readWhole ended s = .ok (digits, rest)) :
    (∀ other, readWhole other s = .ok (digits, rest)) ∧ rest.length < s.length := by
  unfold readWhole at read
  split at read
  · cases read
  · split at read
    · cases read
    · rename_i behind
      cases read
      exact ⟨fun _ => by simp only [readWhole, if_neg behind], by simp⟩
  · rename_i c others nonzero
    split at read
    · rename_i digit
      cases read
      refine ⟨fun _ => by simp only [readWhole, if_pos digit], ?_⟩
      rw [List.dropWhile_cons_of_pos digit, List.length_cons]
      exact Nat.lt_succ_of_le (List.length_dropWhile_le _ _)
    · cases read

theorem readFraction_ok {fraction : Option (List Char)}
    (read : readFraction ended s = .ok (fraction, rest)) :
    (∀ other, readFraction other s = .ok (fraction, rest)) ∧ rest.length ≤ s.length := by
  unfold readFraction at read
  split at read
  · obtain ⟨⟨digits, behind⟩, got, done⟩ := ok_of_bind read
    cases done
    obtain ⟨again, shorter⟩ := readDigits_ok got
    refine ⟨fun other => ?_, Nat.le_succ_of_le (Nat.le_of_lt shorter)⟩
    simp only [readFraction, again other, ok_bind]
    rfl
  · rename_i other
    cases read
    refine ⟨fun ended => ?_, Nat.le_refl _⟩
    unfold readFraction
    split
    · exact absurd rfl (other _)
    · rfl

theorem readExponent_ok {exponent : Option (Bool × List Char)}
    (read : readExponent ended s = .ok (exponent, rest)) :
    (∀ other, readExponent other s = .ok (exponent, rest)) ∧ rest.length ≤ s.length := by
  cases s with
  | nil =>
    cases read
    exact ⟨fun _ => rfl, Nat.le_refl _⟩
  | cons c others =>
    simp only [readExponent] at read ⊢
    split at read
    · rename_i letter
      obtain ⟨⟨digits, behind⟩, got, done⟩ := ok_of_bind read
      cases done
      obtain ⟨again, shorter⟩ := readDigits_ok got
      have signed : (readSign others).2.length ≤ others.length := by
        unfold readSign
        split <;> simp
      refine ⟨fun other => ?_, ?_⟩
      · rw [if_pos letter, again other]
        rfl
      · simp only [List.length_cons] at shorter ⊢
        omega
    · rename_i letter
      cases read
      exact ⟨fun _ => if_neg letter, Nat.le_refl _⟩

theorem readUnsigned_ok {negative : Bool} {numeral : Numeral}
    (read : readUnsigned ended negative s = .ok (numeral, rest)) :
    (∀ other, readUnsigned other negative s = .ok (numeral, rest)) ∧ rest.length < s.length := by
  obtain ⟨⟨whole, behindWhole⟩, atWhole, read⟩ := ok_of_bind read
  obtain ⟨⟨fraction, behindFraction⟩, atFraction, read⟩ := ok_of_bind read
  obtain ⟨⟨exponent, behindExponent⟩, atExponent, done⟩ := ok_of_bind read
  cases done
  obtain ⟨againWhole, fewer⟩ := readWhole_ok atWhole
  obtain ⟨againFraction, noMore⟩ := readFraction_ok atFraction
  obtain ⟨againExponent, left⟩ := readExponent_ok atExponent
  refine ⟨fun other => ?_, Nat.lt_of_le_of_lt (Nat.le_trans left noMore) fewer⟩
  simp only [readUnsigned, againWhole other, againFraction other, againExponent other, ok_bind]
  rfl

theorem read_ok {numeral : Numeral} (reads : read ended s = .ok (numeral, rest)) :
    (∀ other, read other s = .ok (numeral, rest)) ∧ rest.length < s.length := by
  by_cases signed : ∃ t, s = '-' :: t
  · obtain ⟨t, rfl⟩ := signed
    simp only [read_minus] at reads ⊢
    obtain ⟨again, fewer⟩ := readUnsigned_ok reads
    exact ⟨again, Nat.lt_succ_of_lt fewer⟩
  · have unsigned : ∀ t, s ≠ '-' :: t := fun t minus => signed ⟨t, minus⟩
    simp only [read_unsigned _ unsigned] at reads ⊢
    exact readUnsigned_ok reads

end Numeral

end ShaderIdentity.Json
