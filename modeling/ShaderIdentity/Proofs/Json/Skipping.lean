import ShaderIdentity.Json.Skip
import ShaderIdentity.Proofs.Json.Spelling

/-! What is passed over without being built: exactly the spelling of a value, however deep it is
nested. -/
namespace ShaderIdentity.Json

/-! ## Strings -/

theorem skipChars_pending (pending : Nat) (s : List Char) :
    skipChars pending s = skipChars 0 (s.drop pending) := by
  induction s generalizing pending with
  | nil => simp [skipChars]
  | cons c s ih =>
    cases pending with
    | zero => rfl
    | succ pending =>
      rw [List.drop_succ_cons, ← ih, skipChars]

theorem begins_of_expectInString {expected : Char} {fault : Fault} {s : List Char} {done : Unit}
    (found : expectInString expected fault s = .ok done) : ∃ t, s = expected :: t := by
  cases s with
  | nil => cases found
  | cons c t =>
    rw [expectInString] at found
    split at found
    · rename_i same
      exact ⟨t, by rw [same]⟩
    · cases found

theorem skipChars_escape (s : List Char) {unit : Nat} (read : readHex s = .ok unit) :
    skipChars 0 ('\\' :: 'u' :: s) = skipChars 0 (s.drop 4) := by
  rw [skipChars, if_neg (by decide), if_pos rfl]
  simp only [skipEscape, read, ok_bind]
  exact skipChars_pending 5 _

/-- Of a character that needs two units the second one is passed over as an escape of its own. -/
theorem skipChars_unicode {s : List Char} {c : Char} {taken : Nat}
    (read : readUnicode s = .ok (c, taken)) :
    (∃ unit, readHex s = .ok unit) ∧ skipChars 0 (s.drop 4) = skipChars 0 (s.drop taken) := by
  unfold readUnicode at read
  obtain ⟨unit, first, read⟩ := ok_of_bind read
  refine ⟨⟨unit, first⟩, ?_⟩
  by_cases trailing : isTrailing unit = true
  · rw [if_pos trailing] at read
    cases read
  rw [if_neg trailing] at read
  by_cases single : (!isLeading unit) = true
  · rw [if_pos single] at read
    cases read
    rfl
  rw [if_neg single] at read
  obtain ⟨_, backslash, read⟩ := ok_of_bind read
  obtain ⟨_, letter, read⟩ := ok_of_bind read
  obtain ⟨second, hex, read⟩ := ok_of_bind read
  by_cases stray : (!isTrailing second) = true
  · rw [if_pos stray] at read
    cases read
  rw [if_neg stray] at read
  obtain ⟨-, rfl⟩ := Prod.mk.inj (Except.ok.inj read)
  obtain ⟨t, atFour⟩ := begins_of_expectInString backslash
  obtain ⟨u, atFive⟩ := begins_of_expectInString letter
  have behind : t = s.drop 5 := by rw [← List.drop_drop (i := 1) (j := 4), atFour]; rfl
  have left : u = s.drop 6 := by rw [← List.drop_drop (i := 1) (j := 5), atFive]; rfl
  rw [atFour, behind, atFive, skipChars_escape u (left ▸ hex), left, List.drop_drop]

/-- An escape is passed over as it is read. -/
theorem skipEscape_of_readEscape {s : List Char} {meant : Char} {taken : Nat}
    (read : readEscape s = .ok (meant, taken)) :
    ∃ first, skipEscape s = .ok first ∧ skipChars first s = skipChars taken s := by
  unfold readEscape at read
  split at read
  · cases read
  · rename_i rest
    obtain ⟨⟨c, units⟩, unicode, done⟩ := ok_of_bind read
    cases done
    obtain ⟨⟨unit, hex⟩, same⟩ := skipChars_unicode unicode
    refine ⟨5, by simp only [skipEscape, hex, ok_bind]; rfl, ?_⟩
    rw [skipChars_pending 5, skipChars_pending (units + 1), List.drop_succ_cons,
      List.drop_succ_cons, same]
  · rename_i c rest letter
    split at read
    · rename_i simple
      cases read
      exact ⟨1, by simp [skipEscape, simple], rfl⟩
    · cases read

theorem skipChars_of_readChars {pending : Nat} {s chars rest : List Char}
    (read : readChars pending s = .ok (chars, rest)) : skipChars pending s = .ok rest := by
  induction s generalizing pending chars with
  | nil => cases read
  | cons c s ih =>
    cases pending with
    | succ pending => exact ih read
    | zero =>
      rw [readChars] at read
      rw [skipChars]
      split at read
      · rename_i quote
        cases read
        rw [if_pos quote]
      · rename_i noQuote
        rw [if_neg noQuote]
        split at read
        · rename_i backslash
          obtain ⟨⟨meant, taken⟩, escape, read⟩ := ok_of_bind read
          obtain ⟨⟨others, behind⟩, read, done⟩ := ok_of_bind read
          cases done
          obtain ⟨first, skipped, same⟩ := skipEscape_of_readEscape escape
          rw [if_pos backslash, skipped, ok_bind, same, ih read]
        · rename_i noBackslash
          rw [if_neg noBackslash]
          split at read
          · cases read
          · rename_i noControl
            obtain ⟨⟨others, behind⟩, read, done⟩ := ok_of_bind read
            cases done
            rw [if_neg noControl, ih read]

theorem skipChars_of_readString {s rest : List Char} {text : String}
    (read : readString s = .ok (text, rest)) : skipChars 0 s = .ok rest := by
  obtain ⟨⟨chars, behind⟩, read, done⟩ := ok_of_bind read
  cases done
  exact skipChars_of_readChars read

/-! ## Values -/

theorem skipItems_first (fuel : Nat) {s : List Char} (starts : StartsItem (skipBlanks s)) :
    skipItems (fuel + 1) true s = (do skipItems fuel false (← skipValue fuel (skipBlanks s))) := by
  obtain ⟨c, t, begins, -, another⟩ := starts
  rw [skipItems, begins]
  split
  case h_2 whole => exact absurd (List.cons.inj whole).1 another
  all_goals simp_all

theorem skipItems_comma (fuel : Nat) {s t : List Char} (comma : skipBlanks s = ',' :: t) :
    skipItems (fuel + 1) false s = (do skipItems fuel false (← skipValue fuel t)) := by
  rw [skipItems, comma]
  rfl

theorem skipMembers_first (fuel : Nat) {s t : List Char} (quote : skipBlanks s = '"' :: t) :
    skipMembers (fuel + 1) true s =
      (do skipMembers fuel false (← skipMember fuel (skipBlanks s))) := by
  rw [skipMembers, quote]
  rfl

theorem skipMembers_comma (fuel : Nat) {s t : List Char} (comma : skipBlanks s = ',' :: t) :
    skipMembers (fuel + 1) false s = (do skipMembers fuel false (← skipMember fuel t)) := by
  rw [skipMembers, comma]
  rfl

/-- A key and a colon are passed over, and then the value behind them. -/
theorem skipMember_value {fuel : Nat} {s t u w rest : List Char} {key : String}
    (quote : skipBlanks s = '"' :: t) (read : readString t = .ok (key, u))
    (colon : skipBlanks u = ':' :: w) (value : skipValue fuel w = .ok rest) :
    skipMember (fuel + 1) s = .ok rest := by
  rw [skipMember, quote]
  simp only [skipChars_of_readString read, readColon_begins colon, value, ok_bind]

theorem skipNumber_of_read {s rest : List Char} {numeral : Numeral}
    (read : Numeral.read .eofValue s = .ok (numeral, rest)) : skipNumber s = .ok rest := by
  rw [skipNumber, (Numeral.read_ok read).1 .invalidNumber]
  rfl

theorem skipValue_number (fuel : Nat) {s t : List Char} {c : Char} (begins : skipBlanks s = c :: t)
    (starts : startsNumber c = true) : skipValue (fuel + 1) s = skipNumber (c :: t) := by
  simp [skipValue, begins, startsNumber_ne starts, starts]

mutual

theorem Spelled.skipValue {s rest : List Char} {value : Value} {fuel : Nat} :
    Spelled s value rest → 2 * s.length < fuel → Json.skipValue fuel s = .ok rest := by
  intro spelled lasts
  obtain ⟨fuel, rfl⟩ := Nat.exists_eq_add_one_of_ne_zero (Nat.ne_of_gt (Nat.zero_lt_of_lt lasts))
  match spelled with
  | .null begins =>
    rw [Json.skipValue, begins]
    rfl
  | .boolean b begins =>
    rw [Json.skipValue, begins]
    cases b <;> rfl
  | .number begins starts read means =>
    rw [skipValue_number fuel begins starts, skipNumber_of_read read]
  | .string begins read =>
    rw [Json.skipValue, begins]
    exact skipChars_of_readString read
  | .array begins inside =>
    have shorter := length_of_begins begins
    rw [Json.skipValue, begins]
    exact inside.skipItems (by omega)
  | .object begins inside =>
    have shorter := length_of_begins begins
    rw [Json.skipValue, begins]
    exact inside.skipMembers (by omega)

theorem SpelledItems.skipItems {first : Bool} {s rest : List Char} {items : List Value}
    {fuel : Nat} :
    SpelledItems first s items rest → 2 * s.length + 1 < fuel →
      Json.skipItems fuel first s = .ok rest := by
  intro spelled lasts
  obtain ⟨fuel, rfl⟩ := Nat.exists_eq_add_one_of_ne_zero (Nat.ne_of_gt (Nat.zero_lt_of_lt lasts))
  match spelled with
  | .closed bracket =>
    rw [Json.skipItems, bracket]
    rfl
  | .item separated here others =>
    have atItem := length_of_separated separated
    have pastItem := here.length
    have lastItems : Json.skipItems fuel false _ = .ok rest := others.skipItems (by omega)
    cases first with
    | true =>
      have same : s = _ := separated
      subst same
      have blanks := length_skipBlanks s
      have item : Json.skipValue fuel (skipBlanks s) = .ok _ :=
        (here.of_skipBlanks_eq (skipBlanks_skipBlanks s)).skipValue (by omega)
      rw [skipItems_first fuel here.startsItem, item, ok_bind, lastItems]
    | false =>
      have pastComma := length_of_begins separated
      have item : Json.skipValue fuel _ = .ok _ := here.skipValue (by omega)
      rw [skipItems_comma fuel separated, item, ok_bind, lastItems]

theorem SpelledMembers.skipMembers {first : Bool} {s rest : List Char}
    {members : List (String × Value)} {fuel : Nat} :
    SpelledMembers first s members rest → 2 * s.length + 1 < fuel →
      Json.skipMembers fuel first s = .ok rest := by
  intro spelled lasts
  obtain ⟨fuel, rfl⟩ := Nat.exists_eq_add_one_of_ne_zero (Nat.ne_of_gt (Nat.zero_lt_of_lt lasts))
  match spelled with
  | .closed bracket =>
    rw [Json.skipMembers, bracket]
    rfl
  | .member separated quote read colon here others =>
    have atKey := length_of_separated separated
    have pastQuote := length_of_begins quote
    have pastKey := readString_length read
    have pastColon := length_of_begins colon
    have pastValue := here.length
    have lastMembers : Json.skipMembers fuel false _ = .ok rest := others.skipMembers (by omega)
    obtain ⟨fuel, rfl⟩ := Nat.exists_eq_add_one_of_ne_zero (show fuel ≠ 0 by omega)
    have value : Json.skipValue fuel _ = .ok _ := here.skipValue (by omega)
    cases first with
    | true =>
      have same : s = _ := separated
      subst same
      have member := skipMember_value ((skipBlanks_skipBlanks s).trans quote) read colon value
      rw [skipMembers_first _ quote, member, ok_bind, lastMembers]
    | false =>
      have member := skipMember_value quote read colon value
      rw [skipMembers_comma _ separated, member, ok_bind, lastMembers]

end

/-- The spelling of any value is passed over, and nothing behind it. -/
theorem Spelled.skip {s rest : List Char} {value : Value} (spelled : Spelled s value rest) :
    Json.skip s = .ok rest :=
  spelled.skipValue (Nat.lt_succ_self _)

end ShaderIdentity.Json
