import Mathlib.Data.List.DropRight
import ShaderIdentity.Json.Printer
import ShaderIdentity.Json.Reader
import ShaderIdentity.Proofs.Json.NumeralLaws
import ShaderIdentity.Proofs.Json.QuotationLaws

/-!
Texts that spell a value, in every way that is read: with blanks between the parts, with escapes in
strings, and with any numeral for a number. Which float a numeral stands for is left open.
-/
namespace ShaderIdentity.Json

/-- What a numeral stands for: the integer that it writes, or else some float. An integer that does
not fit 64 bits may become a float too. -/
inductive Numeral.Means (numeral : Numeral) : Number → Prop
  | integer {n : Int} (integral : numeral.Integral n) : numeral.Means (.integer n)
  | float (x : Binary64) (beyond : ∀ n, numeral.Integral n → ¬ Fits64 n) : numeral.Means (.float x)

/-- What stands before a part inside brackets: nothing before the first, a comma before another. -/
def Separated (first : Bool) (s t : List Char) : Prop :=
  if first then s = t else skipBlanks s = ',' :: t

mutual

/-- The text `s` begins with a spelling of the value, and `rest` is behind it. -/
inductive Spelled : List Char → Value → List Char → Prop
  | null {s rest : List Char} (begins : skipBlanks s = "null".toList ++ rest) :
      Spelled s .null rest
  | boolean {s rest : List Char} (b : Bool) (begins : skipBlanks s = (toString b).toList ++ rest) :
      Spelled s (.boolean b) rest
  | number {s t rest : List Char} {c : Char} {numeral : Numeral} {n : Number}
      (begins : skipBlanks s = c :: t) (starts : startsNumber c = true)
      (read : Numeral.read .eofValue (c :: t) = .ok (numeral, rest)) (means : numeral.Means n) :
      Spelled s (.number n) rest
  | string {s t rest : List Char} {text : String} (begins : skipBlanks s = '"' :: t)
      (read : readString t = .ok (text, rest)) : Spelled s (.string text) rest
  | array {s t rest : List Char} {items : List Value} (begins : skipBlanks s = '[' :: t)
      (inside : SpelledItems true t items rest) : Spelled s (.array items) rest
  | object {s t rest : List Char} {members : List (String × Value)}
      (begins : skipBlanks s = '{' :: t) (inside : SpelledMembers true t members rest) :
      Spelled s (.object members) rest

/-- Items and the bracket that closes their array, behind the opening bracket or, unless `first`,
behind another item. -/
inductive SpelledItems : Bool → List Char → List Value → List Char → Prop
  | closed {first : Bool} {s rest : List Char} (bracket : skipBlanks s = ']' :: rest) :
      SpelledItems first s [] rest
  | item {first : Bool} {s t behind rest : List Char} {item : Value} {items : List Value}
      (separated : Separated first s t) (here : Spelled t item behind)
      (others : SpelledItems false behind items rest) : SpelledItems first s (item :: items) rest

/-- Members and the bracket that closes their object. -/
inductive SpelledMembers : Bool → List Char → List (String × Value) → List Char → Prop
  | closed {first : Bool} {s rest : List Char} (bracket : skipBlanks s = '}' :: rest) :
      SpelledMembers first s [] rest
  | member {first : Bool} {s t u v w behind rest : List Char} {key : String} {value : Value}
      {members : List (String × Value)} (separated : Separated first s t)
      (quote : skipBlanks t = '"' :: u) (read : readString u = .ok (key, v))
      (colon : skipBlanks v = ':' :: w) (here : Spelled w value behind)
      (others : SpelledMembers false behind members rest) :
      SpelledMembers first s ((key, value) :: members) rest

end

/-- The text holds the value and nothing else but blanks. -/
def Value.SpelledBy (value : Value) (text : String) : Prop :=
  ∃ rest, Spelled text.toList value rest ∧ skipBlanks rest = []

/-! ## How long spellings are -/

theorem length_skipBlanks (s : List Char) : (skipBlanks s).length ≤ s.length :=
  List.length_dropWhile_le _ _

theorem length_of_begins {s t : List Char} {c : Char} (begins : skipBlanks s = c :: t) :
    t.length < s.length := by
  have := length_skipBlanks s
  rw [begins, List.length_cons] at this
  exact this

theorem length_of_separated {first : Bool} {s t : List Char} (separated : Separated first s t) :
    t.length ≤ s.length := by
  cases first with
  | true => exact Nat.le_of_eq (congrArg List.length separated.symm)
  | false => exact Nat.le_of_lt (length_of_begins separated)

theorem readChars_length {pending : Nat} {s chars rest : List Char}
    (read : readChars pending s = .ok (chars, rest)) : rest.length < s.length := by
  induction s generalizing pending chars with
  | nil => cases read
  | cons c s ih =>
    unfold readChars at read
    split at read
    · exact Nat.lt_succ_of_lt (ih read)
    · split at read
      · cases read
        exact Nat.lt_succ_self _
      · split at read
        · obtain ⟨⟨meant, taken⟩, _, read⟩ := ok_of_bind read
          obtain ⟨⟨others, behind⟩, read, done⟩ := ok_of_bind read
          cases done
          exact Nat.lt_succ_of_lt (ih read)
        · split at read
          · cases read
          · obtain ⟨⟨others, behind⟩, read, done⟩ := ok_of_bind read
            cases done
            exact Nat.lt_succ_of_lt (ih read)

theorem readString_length {s rest : List Char} {text : String}
    (read : readString s = .ok (text, rest)) : rest.length < s.length := by
  obtain ⟨⟨chars, behind⟩, read, done⟩ := ok_of_bind read
  cases done
  exact readChars_length read

mutual

theorem Spelled.length {s rest : List Char} {value : Value} :
    Spelled s value rest → rest.length < s.length
  | .null begins => by
    have := length_of_begins begins
    simp at this
    omega
  | .boolean b begins => by
    cases b <;>
    · have := length_of_begins begins
      simp at this
      omega
  | .number begins starts read means => by
    have := length_of_begins begins
    have := (Numeral.read_ok read).2
    rw [List.length_cons] at this
    omega
  | .string begins read => Nat.lt_trans (readString_length read) (length_of_begins begins)
  | .array begins inside => Nat.lt_trans inside.length (length_of_begins begins)
  | .object begins inside => Nat.lt_trans inside.length (length_of_begins begins)

theorem SpelledItems.length {first : Bool} {s rest : List Char} {items : List Value} :
    SpelledItems first s items rest → rest.length < s.length
  | .closed bracket => length_of_begins bracket
  | .item separated here others =>
    Nat.lt_of_lt_of_le (Nat.lt_trans others.length here.length) (length_of_separated separated)

theorem SpelledMembers.length {first : Bool} {s rest : List Char}
    {members : List (String × Value)} :
    SpelledMembers first s members rest → rest.length < s.length
  | .closed bracket => length_of_begins bracket
  | .member separated quote read colon here others => by
    have := others.length
    have := here.length
    have := length_of_begins colon
    have := readString_length read
    have := length_of_begins quote
    have := length_of_separated separated
    omega

end

/-! ## Where spellings begin -/

/-- Blanks before a value say nothing. -/
theorem Spelled.of_skipBlanks_eq {s t rest : List Char} {value : Value}
    (spelled : Spelled s value rest) (same : skipBlanks t = skipBlanks s) :
    Spelled t value rest := by
  cases spelled with
  | null begins => exact .null (same.trans begins)
  | boolean b begins => exact .boolean b (same.trans begins)
  | number begins starts read means => exact .number (same.trans begins) starts read means
  | string begins read => exact .string (same.trans begins) read
  | array begins inside => exact .array (same.trans begins) inside
  | object begins inside => exact .object (same.trans begins) inside

theorem skipBlanks_skipBlanks (s : List Char) : skipBlanks (skipBlanks s) = skipBlanks s :=
  List.dropWhile_idempotent _ _

/-- The text shows at once that it is neither a blank nor the end of an array. -/
def StartsItem (s : List Char) : Prop :=
  ∃ c t, s = c :: t ∧ isBlank c = false ∧ c ≠ ']'

theorem startsNumber_visible {c : Char} (starts : startsNumber c = true) : isBlank c = false := by
  cases blank : isBlank c with
  | false => rfl
  | true =>
    simp only [isBlank, Bool.or_eq_true, decide_eq_true_eq, or_assoc] at blank
    rcases blank with rfl | rfl | rfl | rfl <;> cases starts

/-- What a number begins with begins nothing else. -/
theorem startsNumber_ne {c : Char} (starts : startsNumber c = true) :
    c ≠ 'n' ∧ c ≠ 't' ∧ c ≠ 'f' ∧ c ≠ '"' ∧ c ≠ '[' ∧ c ≠ '{' := by
  refine ⟨?_, ?_, ?_, ?_, ?_, ?_⟩ <;>
  · rintro rfl
    cases starts

/-- What a value begins with closes no array. -/
theorem Spelled.startsItem {s rest : List Char} {value : Value} (spelled : Spelled s value rest) :
    StartsItem (skipBlanks s) := by
  have visible {c : Char} {t : List Char} (begins : skipBlanks s = c :: t) : isBlank c = false := by
    have stops := List.head?_dropWhile_not isBlank s
    rw [skipBlanks] at begins
    simpa [begins] using stops
  cases spelled with
  | null begins => exact ⟨_, _, begins, by decide, by decide⟩
  | boolean b begins => cases b <;> exact ⟨_, _, begins, by decide, by decide⟩
  | number begins starts =>
    exact ⟨_, _, begins, visible begins, by rintro rfl; cases starts⟩
  | string begins | array begins | object begins => exact ⟨_, _, begins, by decide, by decide⟩

theorem readColon_begins {s t : List Char} (colon : skipBlanks s = ':' :: t) :
    readColon s = .ok t := by
  rw [readColon, colon]
  rfl

/-! ## Written values -/

/-- Only blanks stand between the parts of a text in this layout. -/
structure Layout.Blank (layout : Layout) : Prop where
  gap : ∀ level, ∀ c ∈ layout.gap level, isBlank c = true
  colon : ∃ blanks, layout.colon = ':' :: blanks ∧ ∀ c ∈ blanks, isBlank c = true

theorem Layout.compact_blank : Layout.compact.Blank where
  gap _ _ mem := by cases mem
  colon := ⟨[], rfl, fun _ mem => by cases mem⟩

theorem Layout.indented_blank : Layout.indented.Blank where
  gap level c mem := by
    rcases List.mem_cons.mp mem with rfl | space
    · rfl
    · rw [List.eq_of_mem_replicate space]
      rfl
  colon := ⟨[' '], rfl, fun c mem => by rw [List.mem_singleton.mp mem]; rfl⟩

theorem skipBlanks_blanks {blanks : List Char} (blank : ∀ c ∈ blanks, isBlank c = true)
    (s : List Char) : skipBlanks (blanks ++ s) = skipBlanks s :=
  List.dropWhile_append_of_pos blank

theorem skipBlanks_visible {c : Char} (visible : isBlank c = false) (s : List Char) :
    skipBlanks (c :: s) = c :: s := by
  simp [skipBlanks, visible]

theorem endsNumeral_cons {c : Char} (ends : isBlank c = true ∨ c = ',' ∨ c = ']' ∨ c = '}')
    (s : List Char) : EndsNumeral (c :: s) := by
  intro d begins
  cases begins
  simp only [isBlank, Bool.or_eq_true, decide_eq_true_eq, or_assoc] at ends
  rcases ends with rfl | rfl | rfl | rfl | rfl | rfl | rfl <;> decide

theorem endsNumeral_blanks {blanks : List Char} (blank : ∀ c ∈ blanks, isBlank c = true)
    {s : List Char} (ends : EndsNumeral s) : EndsNumeral (blanks ++ s) := by
  cases blanks with
  | nil => exact ends
  | cons c rest => exact endsNumeral_cons (.inl (blank c (by simp))) _

theorem spelled_blanks {blanks s rest : List Char} {value : Value}
    (blank : ∀ c ∈ blanks, isBlank c = true) (spelled : Spelled s value rest) :
    Spelled (blanks ++ s) value rest :=
  spelled.of_skipBlanks_eq (skipBlanks_blanks blank s)

theorem Numeral.text_begins {numeral : Numeral} (proper : numeral.Proper) :
    ∃ c t, numeral.text = c :: t ∧ startsNumber c = true := by
  obtain ⟨negative, whole, fraction, exponent⟩ := numeral
  cases negative with
  | true => exact ⟨'-', _, rfl, rfl⟩
  | false =>
    cases whole with
    | nil => exact absurd rfl proper.whole.nonempty
    | cons c others =>
      have digit : c.isDigit = true := proper.whole.all c List.mem_cons_self
      exact ⟨c, _, rfl, by simp [startsNumber, digit]⟩

theorem spelled_text {numeral : Numeral} (proper : numeral.Proper) {n : Number}
    (means : numeral.Means n) {rest : List Char} (ends : EndsNumeral rest) :
    Spelled (numeral.text ++ rest) (.number n) rest := by
  obtain ⟨c, t, shown, starts⟩ := Numeral.text_begins proper
  have read := Numeral.read_text .eofValue proper ends
  rw [shown, List.cons_append] at read ⊢
  exact .number (skipBlanks_visible (startsNumber_visible starts) _) starts read means

theorem spelled_number (n : Number) {rest : List Char} (ends : EndsNumeral rest) :
    Spelled (n.write ++ rest) (.number n) rest := by
  cases n with
  | integer n =>
    rw [Number.write, Numeral.writeInteger_text]
    exact spelled_text (Numeral.ofInteger_proper n) (.integer (Numeral.ofInteger_integral n)) ends
  | float x =>
    obtain ⟨numeral, proper, parts, shown⟩ := Numeral.writeFloat_text x
    rw [Number.write, shown]
    refine spelled_text proper (.float x fun n integral => ?_) ends
    rw [integral.noFraction, integral.noExponent] at parts
    simp at parts

section
variable {layout : Layout} (blank : layout.Blank)
include blank

theorem writeItems_ends (level : Nat) (items : List Value)
    (rest : List Char) : EndsNumeral (Value.writeItems layout level items ++ rest) := by
  cases items with
  | nil =>
    rw [Value.writeItems, List.append_assoc]
    exact endsNumeral_blanks (blank.gap level) (endsNumeral_cons (by simp) rest)
  | cons item items => exact endsNumeral_cons (by simp) _

theorem writeMembers_ends (level : Nat) (members : List (String × Value))
    (rest : List Char) : EndsNumeral (Value.writeMembers layout level members ++ rest) := by
  cases members with
  | nil =>
    rw [Value.writeMembers, List.append_assoc]
    exact endsNumeral_blanks (blank.gap level) (endsNumeral_cons (by simp) rest)
  | cons member members => exact endsNumeral_cons (by simp) _

/-- A key, the colon behind it and a value. -/
theorem spelled_member {first : Bool} {s t behind rest : List Char} {level : Nat} {key : String}
    {value : Value} {members : List (String × Value)} (separated : Separated first s
      (layout.gap level ++ (writeString key ++ (layout.colon ++ t))))
    (here : Spelled t value behind) (others : SpelledMembers false behind members rest) :
    SpelledMembers first s ((key, value) :: members) rest := by
  obtain ⟨blanks, colon, blankColon⟩ := blank.colon
  obtain ⟨body, quoted, read⟩ := readString_writeString key (layout.colon ++ t)
  rw [quoted] at separated
  rw [colon] at read
  exact .member separated
    ((skipBlanks_blanks (blank.gap level) _).trans (skipBlanks_visible (by decide) _)) read
    (skipBlanks_visible (by decide) _) (spelled_blanks blankColon here) others

mutual

theorem spelled_write (level : Nat) : ∀ (value : Value) {rest : List Char}, EndsNumeral rest →
    Spelled (value.write layout level ++ rest) value rest
  | .null, _, _ => .null rfl
  | .boolean true, _, _ => .boolean true rfl
  | .boolean false, _, _ => .boolean false rfl
  | .number n, _, ends => spelled_number n ends
  | .string s, rest, _ => by
    obtain ⟨body, quoted, read⟩ := readString_writeString s rest
    rw [Value.write, quoted]
    exact .string (skipBlanks_visible (by decide) _) read
  | .array [], _, _ => .array rfl (.closed rfl)
  | .array (item :: items), rest, _ => by
    have others := spelled_writeItems level items rest
    have here := spelled_write (level + 1) item (writeItems_ends blank level items rest)
    rw [Value.write, List.cons_append, List.append_assoc, List.append_assoc]
    exact .array (skipBlanks_visible (by decide) _)
      (.item rfl (spelled_blanks (blank.gap (level + 1)) here) others)
  | .object [], _, _ => .object rfl (.closed rfl)
  | .object ((key, value) :: members), rest, _ => by
    have others := spelled_writeMembers level members rest
    have here := spelled_write (level + 1) value (writeMembers_ends blank level members rest)
    simp only [Value.write, List.cons_append, List.append_assoc]
    exact .object (skipBlanks_visible (by decide) _) (spelled_member blank rfl here others)

theorem spelled_writeItems (level : Nat) : ∀ (items : List Value) (rest : List Char),
    SpelledItems false (Value.writeItems layout level items ++ rest) items rest
  | [], rest => by
    rw [Value.writeItems, List.append_assoc]
    exact .closed (skipBlanks_blanks (blank.gap level) _)
  | item :: items, rest => by
    have others := spelled_writeItems level items rest
    have here := spelled_write (level + 1) item (writeItems_ends blank level items rest)
    rw [Value.writeItems, List.cons_append, List.append_assoc, List.append_assoc]
    exact .item (skipBlanks_visible (by decide) _)
      (spelled_blanks (blank.gap (level + 1)) here) others

theorem spelled_writeMembers (level : Nat) : ∀ (members : List (String × Value))
    (rest : List Char),
    SpelledMembers false (Value.writeMembers layout level members ++ rest) members rest
  | [], rest => by
    rw [Value.writeMembers, List.append_assoc]
    exact .closed (skipBlanks_blanks (blank.gap level) _)
  | (key, value) :: members, rest => by
    have others := spelled_writeMembers level members rest
    have here := spelled_write (level + 1) value (writeMembers_ends blank level members rest)
    simp only [Value.writeMembers, List.cons_append, List.append_assoc]
    exact spelled_member blank (skipBlanks_visible (by decide) _) here others

end

theorem spelledBy_write (value : Value) :
    value.SpelledBy (String.ofList (value.write layout 0)) := by
  refine ⟨[], ?_, rfl⟩
  rw [String.toList_ofList, ← List.append_nil (value.write layout 0)]
  exact spelled_write blank 0 value endsNumeral_nil

end

theorem spelledBy_compact (value : Value) : value.SpelledBy value.compact :=
  spelledBy_write Layout.compact_blank value

end ShaderIdentity.Json
