import ShaderIdentity.Proofs.Profile.DocumentLaws

/-! The keys of a document. A key names the fingerprint whose text it is; all other keys are
refused, each for one of four reasons. -/
namespace ShaderIdentity.Fingerprint

open Text

variable {given : String} {fingerprint : Fingerprint}

/-- Texts of no fingerprint. A sign, a blank and a digit of another script are all characters that
are no digits. -/
inductive Malformed (given : String) : Prop
  | empty (nothing : given.toList = [])
  | character {c : Char} (mem : c ∈ given.toList) (noDigit : c.isDigit = false)
  | leadingZero {c : Char} {rest : List Char} (begins : given.toList = '0' :: c :: rest)
  | large {n : Nat} (shown : given.toList = decimal n) (above : UInt32.size ≤ n)

theorem toList_text (fingerprint : Fingerprint) :
    fingerprint.text.toList = decimal fingerprint.code.toNat :=
  String.toList_ofList

/-- No number is written with a zero before other digits. -/
theorem decimal_ne_leadingZero (n : Nat) (c : Char) (rest : List Char) :
    decimal n ≠ '0' :: c :: rest := by
  intro shown
  rcases Nat.eq_zero_or_pos n with rfl | positive
  · have zero : decimal 0 = ['0'] := rfl
    rw [zero] at shown
    cases shown
  · exact head?_decimal_ne_zero positive (congrArg List.head? shown)

theorem Malformed.ne_text (malformed : Malformed given) (fingerprint : Fingerprint) :
    given ≠ fingerprint.text := by
  rintro rfl
  cases malformed with
  | empty nothing => exact Nat.toDigits_ne_nil ((toList_text fingerprint).symm.trans nothing)
  | character mem noDigit =>
    rw [toList_text] at mem
    exact absurd (isDigit_of_mem_decimal mem) (by simp [noDigit])
  | leadingZero begins =>
    exact decimal_ne_leadingZero _ _ _ ((toList_text fingerprint).symm.trans begins)
  | large shown above =>
    have fits : fingerprint.code.toNat < UInt32.size := fingerprint.code.toNat_lt
    have same := decimal_injective ((toList_text fingerprint).symm.trans shown)
    omega

/-- Every text is that of a fingerprint or is malformed. -/
theorem text_or_malformed (given : String) :
    (∃ fingerprint : Fingerprint, given = fingerprint.text) ∨ Malformed given := by
  by_cases nothing : given.toList = []
  · exact .inr (.empty nothing)
  by_cases digits : ∀ c ∈ given.toList, c.isDigit = true
  case neg =>
    push Not at digits
    obtain ⟨c, mem, noDigit⟩ := digits
    exact .inr (.character mem (by simpa using noDigit))
  by_cases lead : given.toList = ['0'] ∨ given.toList.head? ≠ some '0'
  case neg =>
    push Not at lead
    obtain ⟨another, zero⟩ := lead
    obtain ⟨rest, begins⟩ := List.head?_eq_some_iff.mp zero
    cases rest with
    | nil => exact absurd begins another
    | cons c rest => exact .inr (.leadingZero begins)
  have shown := decimal_ofDigitChars nothing digits lead
  by_cases fits : Nat.ofDigitChars 10 given.toList 0 < UInt32.size
  · refine .inl ⟨⟨.ofNat (Nat.ofDigitChars 10 given.toList 0)⟩, ?_⟩
    rw [text, UInt32.toNat_ofNat_of_lt' fits, shown, String.ofList_toList]
  · exact .inr (.large shown.symm (Nat.le_of_not_lt fits))

theorem parse_eq_ok : parse given = .ok fingerprint ↔ given = fingerprint.text := by
  constructor
  · intro read
    exact (text_of_parse read).symm
  · rintro rfl
    exact parse_text fingerprint

theorem parse_eq_error : parse given = .error ⟨given⟩ ↔ Malformed given := by
  constructor
  · intro refused
    obtain ⟨fingerprint, rfl⟩ | malformed := text_or_malformed given
    · rw [parse_text] at refused
      cases refused
    · exact malformed
  · intro malformed
    cases read : parse given with
    | ok fingerprint => exact absurd (parse_eq_ok.mp read) (malformed.ne_text fingerprint)
    | error err =>
      simp only [parse] at read
      split at read <;> cases read
      rfl

/-- A text is read as the fingerprint that it is the text of, and any other is refused and given
back. So no two fingerprints share a text, and no two keys that give an entry share a
fingerprint. -/
theorem keys_exact :
    (∀ given fingerprint, parse given = .ok fingerprint ↔ given = fingerprint.text) ∧
    (∀ given, parse given = .error ⟨given⟩ ↔
      ∀ fingerprint : Fingerprint, given ≠ fingerprint.text) ∧
    (∀ given, parse given = .error ⟨given⟩ ↔ Malformed given) ∧
    (∀ a b : Fingerprint, a.text = b.text → a = b) ∧
    (∀ a b fingerprint, parse a = .ok fingerprint → parse b = .ok fingerprint → a = b) ∧
    ∀ stage stage' key key' value value' settings settings' fingerprint,
      (fingerprint, settings) ∈ (Document.readEntry stage key value).entries →
      (fingerprint, settings') ∈ (Document.readEntry stage' key' value').entries → key = key' := by
  refine ⟨fun _ _ => parse_eq_ok, fun given => ?_, fun _ => parse_eq_error,
    fun _ _ => text_injective, fun a b fingerprint readA readB => ?_, ?_⟩
  · rw [parse_eq_error]
    constructor
    · exact Malformed.ne_text
    · intro other
      exact (text_or_malformed given).resolve_left fun ⟨fingerprint, same⟩ => other fingerprint same
  · rw [parse_eq_ok.mp readA, parse_eq_ok.mp readB]
  · intro stage stage' key key' value value' settings settings' fingerprint mem mem'
    rw [← Document.text_of_mem_readEntry mem, ← Document.text_of_mem_readEntry mem']

/-- The greatest key, the number behind it, and a key with a sign, a zero in front or a digit of
another script. -/
theorem keys_at_the_edge :
    parse "4294967295" = .ok ⟨4294967295⟩ ∧
    parse "4294967296" = .error ⟨"4294967296"⟩ ∧
    parse "+7" = .error ⟨"+7"⟩ ∧ parse "07" = .error ⟨"07"⟩ ∧ parse "٧" = .error ⟨"٧"⟩ := by
  obtain ⟨read, _, refused, _⟩ := keys_exact
  refine ⟨(read _ _).mpr (by decide), ?_, ?_, ?_, ?_⟩
  · exact (refused _).mpr (.large (n := 4294967296) (by decide) (by decide))
  · exact (refused _).mpr (.character (c := '+') (by decide) (by decide))
  · exact (refused _).mpr (.leadingZero (show "07".toList = '0' :: '7' :: [] by decide))
  · exact (refused _).mpr (.character (c := '٧') (by decide) (by decide))

end ShaderIdentity.Fingerprint
