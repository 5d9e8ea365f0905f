import ShaderIdentity.Json.Quotation

/-! A string reads back from the text that is written for it, whatever characters it holds. -/
namespace ShaderIdentity.Json

theorem byteSize_append (s t : List Char) : byteSize (s ++ t) = byteSize s + byteSize t := by
  induction s with
  | nil => simp [byteSize]
  | cons c rest ih => simp only [List.cons_append, byteSize, ih]; omega

theorem length_le_byteSize (s : List Char) : s.length ≤ byteSize s := by
  induction s with
  | nil => exact Nat.le_refl 0
  | cons c rest ih =>
    have := c.utf8Size_pos
    simp only [List.length_cons, byteSize]
    omega

/-- Only control characters are written with four digits. -/
theorem hex_control : ∀ n < 0x20, (Text.hex 4 n).length = 4 ∧
    ((Text.hex 4 n).mapM Text.hexValue?).map
      (List.foldl (fun sofar digit => 16 * sofar + digit) 0) = some n := by
  decide

theorem readHex_hex {n : Nat} (control : n < 0x20) (s : List Char) :
    readHex (Text.hex 4 n ++ s) = .ok n := by
  obtain ⟨length, value⟩ := hex_control n control
  have long : ¬ byteSize (Text.hex 4 n ++ s) < 4 := by
    have := length_le_byteSize (Text.hex 4 n)
    rw [byteSize_append]
    omega
  obtain ⟨digits, read, number⟩ := Option.map_eq_some_iff.mp value
  rw [readHex, if_neg long, List.take_left' length, read, ← number]

/-- What an escape stands for does not depend on the characters it has already taken. -/
theorem readChars_pending (taken s : List Char) :
    readChars taken.length (taken ++ s) = readChars 0 s := by
  induction taken with
  | nil => rfl
  | cons c rest ih => exact ih

theorem readChars_simple {letter meant : Char} (escape : simpleEscape? letter = some meant)
    (plain : letter ≠ 'u') (s : List Char) :
    readChars 0 ('\\' :: letter :: s) = (do
      let (chars, rest) ← readChars 0 s
      return (meant :: chars, rest)) := by
  have read : readEscape (letter :: s) = .ok (meant, 1) := by
    simp only [readEscape, escape]
  have behind : readChars 1 (letter :: s) = readChars 0 s := readChars_pending [letter] s
  rw [readChars, if_neg (by decide), if_pos rfl, read]
  simp only [bind, Except.bind, behind]

theorem readChars_control {c : Char} (control : c.toNat < 0x20) (s : List Char) :
    readChars 0 ('\\' :: 'u' :: (Text.hex 4 c.toNat ++ s)) = (do
      let (chars, rest) ← readChars 0 s
      return (c :: chars, rest)) := by
  have trailing : isTrailing c.toNat = false := by
    simp only [isTrailing, Bool.and_eq_false_iff, decide_eq_false_iff_not]
    omega
  have leading : isLeading c.toNat = false := by
    simp only [isLeading, Bool.and_eq_false_iff, decide_eq_false_iff_not]
    omega
  have unit : readUnicode (Text.hex 4 c.toNat ++ s) = .ok (c, 4) := by
    simp [readUnicode, readHex_hex control, trailing, leading, bind, Except.bind, pure,
      Except.pure, Char.ofNat_toNat]
  have read : readEscape ('u' :: (Text.hex 4 c.toNat ++ s)) = .ok (c, 5) := by
    simp only [readEscape, unit, bind, Except.bind, pure, Except.pure]
  have behind : readChars 5 ('u' :: (Text.hex 4 c.toNat ++ s)) = readChars 0 s := by
    have := readChars_pending ('u' :: Text.hex 4 c.toNat) s
    rwa [List.length_cons, (hex_control c.toNat control).1] at this
  rw [readChars, if_neg (by decide), if_pos rfl, read]
  simp only [bind, Except.bind, behind]

theorem readChars_escapeChar (c : Char) (s : List Char) :
    readChars 0 (escapeChar c ++ s) = (do
      let (chars, rest) ← readChars 0 s
      return (c :: chars, rest)) := by
  unfold escapeChar
  split
  case h_8 quote backslash _ _ _ _ _ =>
    split
    · rename_i control
      exact readChars_control control s
    · rename_i visible
      rw [List.singleton_append, readChars, if_neg quote, if_neg backslash, if_neg visible]
  all_goals exact readChars_simple rfl (by decide) s

theorem readChars_escaped (chars rest : List Char) :
    readChars 0 (chars.flatMap escapeChar ++ '"' :: rest) = .ok (chars, rest) := by
  induction chars with
  | nil => rfl
  | cons c chars ih =>
    rw [List.flatMap_cons, List.append_assoc, readChars_escapeChar, ih]
    rfl

/-- A string reads back behind the quote that opens it. -/
theorem readString_writeString (s : String) (rest : List Char) :
    ∃ body, writeString s ++ rest = '"' :: body ∧ readString body = .ok (s, rest) := by
  refine ⟨s.toList.flatMap escapeChar ++ '"' :: rest, by simp [writeString], ?_⟩
  rw [readString, readChars_escaped]
  simp only [bind, Except.bind, pure, Except.pure, String.ofList_toList]

end ShaderIdentity.Json
