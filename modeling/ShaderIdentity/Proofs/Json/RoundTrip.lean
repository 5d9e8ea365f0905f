import ShaderIdentity.Proofs.Json.Spelling

/-! What is written for a value reads back as that value. More than that, every text that spells it
is read as the value, as long as the text says everything about it. -/
namespace ShaderIdentity.Json

section
variable {ε α β : Type}

theorem toOption_bind (first : Except ε α) (next : α → Except ε β) :
    (first >>= next).toOption = first.toOption.bind fun a => (next a).toOption := by
  cases first <;> rfl

theorem toOption_map (f : α → β) (first : Except ε α) :
    (f <$> first).toOption = first.toOption.map f := by
  cases first <;> rfl

theorem toOption_eq_some {result : Except ε α} {a : α} :
    result.toOption = some a ↔ result = .ok a := by
  cases result with
  | error err => simp [Except.toOption]
  | ok b => simp [Except.toOption]

end

/-! ## The parts inside brackets -/

theorem nextItem_bracket (first : Bool) {s rest : List Char}
    (bracket : skipBlanks s = ']' :: rest) : nextItem first s = .ok (.closed rest) := by
  rw [nextItem, bracket]
  rfl

theorem nextItem_separated {first : Bool} {s t : List Char} (separated : Separated first s t)
    (starts : StartsItem (skipBlanks t)) : nextItem first s = .ok (.more (skipBlanks t)) := by
  obtain ⟨c, u, begins, visible, another⟩ := starts
  cases first with
  | true =>
    have same : s = t := separated
    rw [nextItem, same, begins]
    simp
  | false =>
    have comma : skipBlanks s = ',' :: t := separated
    rw [nextItem, comma]
    simp [begins, another]

theorem nextKey_bracket (first : Bool) {s rest : List Char} (bracket : skipBlanks s = '}' :: rest) :
    nextKey first s = .ok (.closed rest) := by
  rw [nextKey, bracket]
  rfl

theorem nextKey_separated {first : Bool} {s t u : List Char} (separated : Separated first s t)
    (quote : skipBlanks t = '"' :: u) : nextKey first s = .ok (.more u) := by
  cases first with
  | true =>
    have same : s = t := separated
    rw [nextKey, same, quote]
    rfl
  | false =>
    have comma : skipBlanks s = ',' :: t := separated
    rw [nextKey, comma]
    simp [quote]

/-- Every item takes a character, and so does the bracket. -/
theorem SpelledItems.count {first : Bool} {s rest : List Char} {items : List Value}
    (spelled : SpelledItems first s items rest) : items.length + rest.length < s.length := by
  induction items generalizing first s with
  | nil =>
    have := spelled.length
    simpa using this
  | cons item items ih =>
    cases spelled with
    | item separated here others =>
      have := ih others
      have := here.length
      have := length_of_separated separated
      simp only [List.length_cons]
      omega

theorem SpelledMembers.count {first : Bool} {s rest : List Char}
    {members : List (String × Value)} (spelled : SpelledMembers first s members rest) :
    members.length + rest.length < s.length := by
  induction members generalizing first s with
  | nil =>
    have := spelled.length
    simpa using this
  | cons member members ih =>
    cases spelled with
    | member separated quote read colon here others =>
      have := ih others
      have := here.length
      have := length_of_begins colon
      have := readString_length read
      have := length_of_begins quote
      have := length_of_separated separated
      simp only [List.length_cons]
      omega

section
variable {α σ : Type}

/-- Items are read in turn when each of them is, up to the bracket. -/
theorem readItems_spelled {item : List Char → Except Failure (α × List Char)}
    {meant : Value → Option α} {items : List Value}
    (each : ∀ value ∈ items, ∀ {s rest : List Char}, Spelled s value rest →
      (item s).toOption = (meant value).map fun a => (a, rest))
    {first : Bool} {s rest : List Char} {fuel : Nat} (spelled : SpelledItems first s items rest)
    (lasts : items.length < fuel) :
    (readItems item fuel first s).toOption = (items.mapM meant).map fun list => (list, rest) := by
  induction items generalizing first s fuel with
  | nil =>
    obtain ⟨fuel, rfl⟩ := Nat.exists_eq_add_of_lt lasts
    cases spelled with
    | closed bracket =>
      simp only [readItems, nextItem_bracket first bracket, ok_bind]
      rfl
  | cons value items ih =>
    obtain ⟨fuel, rfl⟩ := Nat.exists_eq_add_of_lt lasts
    obtain ⟨eachHere, eachBehind⟩ := List.forall_mem_cons.mp each
    cases spelled with
    | item separated here others =>
      have read := eachHere (here.of_skipBlanks_eq (skipBlanks_skipBlanks _))
      have tail : (readItems item ((value :: items).length + fuel) false _).toOption = _ :=
        ih eachBehind others (by rw [List.length_cons]; omega)
      simp only [readItems, nextItem_separated separated here.startsItem, ok_bind, toOption_bind,
        read, List.mapM_cons]
      cases meant value with
      | none => rfl
      | some a =>
        simp only [Option.map_some, Option.bind_some, tail]
        cases items.mapM meant <;> rfl

/-- Members are read in turn when each of them is, from the colon on. -/
theorem readMembers_spelled {read : σ → String → List Char → Except Failure (σ × List Char)}
    {meant : σ → String × Value → Option σ} {members : List (String × Value)}
    (each : ∀ member ∈ members, ∀ (state : σ) {s t rest : List Char}, skipBlanks s = ':' :: t →
      Spelled t member.2 rest →
        (read state member.1 s).toOption = (meant state member).map fun state => (state, rest))
    {first : Bool} {state : σ} {s rest : List Char} {fuel : Nat}
    (spelled : SpelledMembers first s members rest) (lasts : members.length < fuel) :
    (readMembers read fuel first state s).toOption =
      (members.foldlM meant state).map fun state => (state, rest) := by
  induction members generalizing first state s fuel with
  | nil =>
    obtain ⟨fuel, rfl⟩ := Nat.exists_eq_add_of_lt lasts
    cases spelled with
    | closed bracket =>
      simp only [readMembers, nextKey_bracket first bracket, ok_bind]
      rfl
  | cons member members ih =>
    obtain ⟨fuel, rfl⟩ := Nat.exists_eq_add_of_lt lasts
    obtain ⟨eachHere, eachBehind⟩ := List.forall_mem_cons.mp each
    cases spelled with
    | @member _ _ _ _ _ _ behind _ key value _ separated quote string colon here others =>
      have one := eachHere state colon here
      have tail (state : σ) :
          (readMembers read (((key, value) :: members).length + fuel) false state
            behind).toOption = _ :=
        ih eachBehind others (by rw [List.length_cons]; omega)
      simp only at one
      simp only [readMembers, nextKey_separated separated quote, ok_bind, string, toOption_bind,
        one, List.foldlM_cons]
      cases meant state (key, value) with
      | none => rfl
      | some state => exact tail state

end

namespace Value

/-! ## Values that a text says everything about -/

/-- Brackets open at most `depth` levels deep, and every number is an integer of 64 bits. -/
inductive Plain : Nat → Value → Prop where
  | null (depth : Nat) : Plain depth .null
  | boolean (depth : Nat) (b : Bool) : Plain depth (.boolean b)
  | integer (depth : Nat) {n : Int} (fits : Fits64 n) : Plain depth (.number (.integer n))
  | string (depth : Nat) (s : String) : Plain depth (.string s)
  | array {depth : Nat} {items : List Value} (plain : ∀ item ∈ items, Plain depth item) :
      Plain (depth + 1) (.array items)
  | object {depth : Nat} {members : List (String × Value)}
      (plain : ∀ member ∈ members, Plain depth member.2) : Plain (depth + 1) (.object members)

variable {s t rest : List Char}

/-- A text that does not begin with a bracket is read as a scalar at every depth. -/
theorem read_scalar (depth : Nat) {c : Char} (begins : skipBlanks s = c :: t) (square : c ≠ '[')
    (curly : c ≠ '{') : read depth s = readScalar (c :: t) := by
  rw [read.eq_def, begins]
  split <;> simp_all

theorem read_array (depth : Nat) (begins : skipBlanks s = '[' :: t) :
    read (depth + 1) s = (do
      let (items, rest) ← readItems (read depth) (t.length + 1) true t
      return (.array items, rest)) := by
  rw [read.eq_def, begins]
  rfl

theorem read_object (depth : Nat) (begins : skipBlanks s = '{' :: t) :
    read (depth + 1) s = (do
      let (members, rest) ← readMembers (readMember (read depth)) (t.length + 1) true [] t
      return (.object members, rest)) := by
  rw [read.eq_def, begins]
  rfl

theorem readScalar_integer {c : Char} {numeral : Numeral} {n : Int}
    (starts : startsNumber c = true) (read : Numeral.read .eofValue (c :: t) = .ok (numeral, rest))
    (integral : numeral.Integral n) (fits : Fits64 n) :
    readScalar (c :: t) = .ok (.number (.integer n), rest) := by
  have number : numeral.number rest = .ok (.integer n) :=
    Numeral.number_eq_integer.mpr ⟨integral, fits⟩
  simp [readScalar, startsNumber_ne starts, starts, readNumber, read, number, bind, Except.bind,
    pure, Except.pure]

end Value

theorem foldlM_concat (before members : List (String × Value)) :
    members.foldlM (m := Option) (fun before member => some (before ++ [member])) before =
      some (before ++ members) := by
  induction members generalizing before with
  | nil => simp
  | cons member members ih => simp [List.foldlM_cons, ih]

open Value in
/-- A plain value is read from whatever text spells it, and nothing behind it. -/
theorem Spelled.read {depth : Nat} {s rest : List Char} {value : Value}
    (spelled : Spelled s value rest) (plain : value.Plain depth) :
    Value.read depth s = .ok (value, rest) := by
  induction plain generalizing s rest with
  | null depth =>
    cases spelled with
    | null begins =>
      rw [read_scalar depth begins (by decide) (by decide)]
      rfl
  | boolean depth b =>
    cases spelled with
    | boolean b begins =>
      cases b <;>
      · rw [read_scalar depth begins (by decide) (by decide)]
        rfl
  | integer depth fits =>
    cases spelled with
    | number begins starts read means =>
      obtain ⟨-, -, -, -, square, curly⟩ := startsNumber_ne starts
      rw [read_scalar depth begins square curly]
      cases means with
      | integer integral => exact readScalar_integer starts read integral fits
  | string depth text =>
    cases spelled with
    | string begins read =>
      rw [read_scalar depth begins (by decide) (by decide)]
      simp only [readScalar, read, ok_bind]
      rfl
  | @array depth items plain back =>
    cases spelled with
    | @array _ t _ _ begins inside =>
      have each : ∀ item ∈ items, ∀ {s rest : List Char}, Spelled s item rest →
          (Value.read depth s).toOption = (some item).map fun item => (item, rest) := by
        intro item mem s rest spelled
        rw [back item mem spelled]
        rfl
      have collected : items.mapM (m := Option) some = some (items.map id) := List.mapM_pure
      have read : (readItems (Value.read depth) (t.length + 1) true t).toOption = _ :=
        readItems_spelled each inside (by have := inside.count; omega)
      rw [collected, List.map_id, Option.map_some, toOption_eq_some] at read
      rw [read_array depth begins, read]
      rfl
  | @object depth members plain back =>
    cases spelled with
    | @object _ t _ _ begins inside =>
      have each : ∀ member ∈ members, ∀ (before : List (String × Value)) {s t rest : List Char},
          skipBlanks s = ':' :: t → Spelled t member.2 rest →
          (readMember (Value.read depth) before member.1 s).toOption =
            (some (before ++ [member])).map fun members => (members, rest) := by
        intro member mem before s t rest colon spelled
        rw [readMember, readColon_begins colon, ok_bind, back member mem spelled]
        rfl
      have read : (readMembers (readMember (Value.read depth)) (t.length + 1) true [] t).toOption =
          _ :=
        readMembers_spelled each inside (by have := inside.count; omega)
      rw [foldlM_concat, List.nil_append, Option.map_some, toOption_eq_some] at read
      rw [read_object depth begins, read]
      rfl

namespace Value

/-- A text is parsed as the plain value that it spells. -/
theorem parse_spelledBy {value : Value} (plain : value.Plain greatestDepth) {text : String}
    (spelled : value.SpelledBy text) : parse text = .ok value.canonical := by
  obtain ⟨rest, spelled, blank⟩ := spelled
  rw [parse, spelled.read plain, ok_bind]
  simp only [finish, blank, ok_bind]
  rfl

/-- A value reads back at every level and before every text that does not continue it. -/
def ReadsBack (layout : Layout) (depth : Nat) (value : Value) : Prop :=
  ∀ (level : Nat) (rest : List Char), EndsNumeral rest →
    read depth (value.write layout level ++ rest) = .ok (value, rest)

/-- The text of a plain value reads back as the value, whatever follows that does not continue
it. -/
theorem read_write {layout : Layout} (blank : layout.Blank) {depth : Nat} {value : Value}
    (plain : value.Plain depth) : ReadsBack layout depth value :=
  fun level _ ends => (spelled_write blank level value ends).read plain

theorem parse_pretty {value : Value} (plain : value.Plain greatestDepth) :
    parse value.pretty = .ok value.canonical :=
  parse_spelledBy plain (spelledBy_write Layout.indented_blank value)

end Value

end ShaderIdentity.Json
