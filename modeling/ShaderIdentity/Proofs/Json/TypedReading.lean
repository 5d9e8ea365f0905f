import ShaderIdentity.Proofs.Json.RoundTrip
import ShaderIdentity.Proofs.Json.Skipping

/-! Decoding straight from a text comes to the same as decoding the value that the text spells. -/
namespace ShaderIdentity.Json

namespace Decoder

variable {α β σ : Type}

/-- Whatever spelling of the value is read, it comes to what the value decodes to, and reading stops
behind it. Which fault is found is not said: a text is read in its own order. -/
def Agrees (decoder : Decoder α) (value : Value) : Prop :=
  ∀ {s rest : List Char}, Spelled s value rest →
    (decoder.read s).toOption = (decoder.ofValue value).toOption.map fun a => (a, rest)

theorem map_agrees {decoder : Decoder α} {value : Value} (agrees : decoder.Agrees value)
    (f : α → β) : (decoder.map f).Agrees value := by
  intro s rest spelled
  have read := agrees spelled
  simp only [map, toOption_bind, toOption_map, read]
  cases (decoder.ofValue value).toOption <;> rfl

theorem boolean_agrees (value : Value) : boolean.Agrees value := by
  intro s rest spelled
  cases spelled with
  | boolean b begins =>
    simp only [boolean, begins]
    cases b <;> rfl
  | number begins starts =>
    simp [boolean, begins, startsNumber_ne starts, Except.toOption]
  | null begins | string begins | array begins | object begins =>
    simp only [boolean, begins]
    rfl

/-- A whole number is asked for that fits 64 bits. Then it does not matter that larger numbers are
read as floats. -/
theorem wholeNumber_means {bound : Nat} (small : bound ≤ UInt64.size) (form : String)
    {numeral : Numeral} {n : Number} (means : numeral.Means n) (rest : List Char) :
    (numeral.number rest).toOption.bind (fun read => (wholeNumber bound form read).toOption) =
      (wholeNumber bound form n).toOption := by
  have noInteger (beyond : ∀ m, numeral.Integral m → ¬ Fits64 m) :
      (numeral.number rest).toOption.bind (fun read => (wholeNumber bound form read).toOption) =
        none := by
    cases read : numeral.number rest with
    | error failure => rfl
    | ok number =>
      cases number with
      | float x => rfl
      | integer m =>
        obtain ⟨integral, fits⟩ := Numeral.number_eq_integer.mp read
        exact absurd fits (beyond m integral)
  cases means with
  | float x beyond => exact noInteger beyond
  | @integer n integral =>
    by_cases fits : Fits64 n
    · rw [Numeral.number_eq_integer.mpr ⟨integral, fits⟩]
      rfl
    · have outside : ¬ (0 ≤ n ∧ n < bound) := by
        intro inside
        exact fits ⟨by omega, by omega⟩
      rw [noInteger fun m other => by rwa [← other.value, integral.value], wholeNumber,
        if_neg outside]
      rfl

theorem toOption_liftMismatch (rest : List Char) (result : Except Mismatch α) :
    (liftMismatch rest result).toOption = result.toOption.map fun a => (a, rest) := by
  cases result <;> rfl

theorem whole_agrees {bound : Nat} (small : bound ≤ UInt64.size) (form : String) (value : Value) :
    (whole bound form).Agrees value := by
  intro s rest spelled
  cases spelled with
  | @number _ _ _ _ numeral _ begins starts read means =>
    have number := wholeNumber_means small form means rest
    simp only [whole, begins, if_pos starts, readNumber, read, ok_bind, toOption_bind, ← number]
    cases numeral.number rest with
    | error failure => rfl
    | ok found => exact toOption_liftMismatch rest _
  | boolean b begins =>
    simp only [whole, begins]
    cases b <;> rfl
  | null begins | string begins | array begins | object begins =>
    simp only [whole, begins]
    rfl

theorem word32_agrees (value : Value) : word32.Agrees value :=
  map_agrees (whole_agrees (by decide) "u32" value) UInt32.ofNat

theorem string_agrees (form : String) (value : Value) : (string form).Agrees value := by
  intro s rest spelled
  cases spelled with
  | string begins read => simp only [string, begins, read]; rfl
  | number begins starts =>
    simp [string, begins, startsNumber_ne starts, Except.toOption]
  | boolean b begins =>
    simp only [string, begins]
    cases b <;> rfl
  | null begins | array begins | object begins =>
    simp only [string, begins]
    rfl

theorem toOption_mapM {β : Type} (decode : Value → Except Mismatch β) (items : List Value) :
    (items.mapM decode).toOption = items.mapM fun item => (decode item).toOption := by
  induction items with
  | nil => rfl
  | cons item items ih =>
    simp only [List.mapM_cons, toOption_bind, ih]
    rfl

theorem sequence_agrees {item : Decoder α} (agrees : ∀ value, item.Agrees value) (value : Value) :
    (sequence item).Agrees value := by
  intro s rest spelled
  cases spelled with
  | array begins inside =>
    simp only [sequence, begins, toOption_mapM]
    exact readItems_spelled (fun value _ => agrees value) inside (by have := inside.count; omega)
  | number begins starts =>
    simp [sequence, begins, startsNumber_ne starts, Except.toOption]
  | boolean b begins =>
    simp only [sequence, begins]
    cases b <;> rfl
  | null begins | string begins | object begins =>
    simp only [sequence, begins]
    rfl

/-! ## Records -/

namespace RecordField

/-- Reading a spelling of the value fills the field as decoding the value does. -/
def Agrees (field : RecordField σ) (value : Value) : Prop :=
  ∀ {s rest : List Char} (record : σ), Spelled s value rest →
    (field.read record s).toOption =
      (field.ofValue record value).toOption.map fun filled => (filled, rest)

end RecordField

theorem field_agrees {decoder : Decoder α} {value : Value} (agrees : decoder.Agrees value)
    (name : String) (fill : σ → α → σ) : (field name decoder fill).Agrees value := by
  intro s rest record spelled
  have read := agrees spelled
  simp only [field, toOption_bind, toOption_map, read]
  cases (decoder.ofValue value).toOption <;> rfl

theorem closeArray_separated {first : Bool} {s t : List Char} (separated : Separated first s t)
    (starts : StartsItem (skipBlanks t)) : (closeArray s).toOption = none := by
  obtain ⟨c, u, begins, -, another⟩ := starts
  cases first with
  | true =>
    have same : s = t := separated
    rw [closeArray, same, begins]
    split
    case h_2 whole => exact absurd (List.cons.inj whole).1 another
    case h_3 => split <;> rfl
    all_goals rfl
  | false =>
    have comma : skipBlanks s = ',' :: t := separated
    simp only [closeArray, comma, begins]
    split <;> rfl

/-- No two of the members name the same field. -/
def NamedOnce (fields : List (RecordField σ)) (members : List (String × Value)) : Prop :=
  members.Pairwise fun a b => a.1 = b.1 → ∀ field ∈ fields, field.name ≠ a.1

theorem namedOnce_of_distinct (fields : List (RecordField σ)) {members : List (String × Value)}
    (distinct : (members.map Prod.fst).Nodup) : NamedOnce fields members :=
  (List.pairwise_map.mp distinct).imp fun other same => absurd same other

/-- Fills in the field that a member names. `seen` lists the fields that were named before, and none
is filled in twice. -/
def fillOnce (fields : List (RecordField σ)) :
    σ × List String → String × Value → Option (σ × List String)
  | (record, seen), (key, value) =>
    match fields.find? (fun field => field.name = key) with
    | some field =>
      if key ∈ seen then none
      else (field.ofValue record value).toOption.map fun filled => (filled, key :: seen)
    | none => some (record, seen)

/-- Where no field is named twice it makes no difference which were named before. -/
theorem foldlM_fillOnce {fields : List (RecordField σ)} {members : List (String × Value)}
    (once : NamedOnce fields members) {seen : List String}
    (unseen : ∀ member ∈ members, member.1 ∈ seen → ∀ field ∈ fields, field.name ≠ member.1)
    (record : σ) :
    (members.foldlM (fillOnce fields) (record, seen)).map Prod.fst =
      (members.foldlM (fillMember fields) record).toOption := by
  induction members generalizing seen record with
  | nil => rfl
  | cons member members ih =>
    obtain ⟨key, value⟩ := member
    obtain ⟨onlyHere, onceBehind⟩ := List.pairwise_cons.mp once
    obtain ⟨unseenHere, unseenBehind⟩ := List.forall_mem_cons.mp unseen
    cases named : fields.find? (fun field => field.name = key) with
    | none =>
      simp only [List.foldlM_cons, fillOnce, fillMember, named, ok_bind]
      exact ih onceBehind unseenBehind record
    | some field =>
      have mem := List.mem_of_find?_eq_some named
      have name : field.name = key := by simpa using List.find?_some named
      have new : key ∉ seen := fun old => unseenHere old field mem name
      simp only [List.foldlM_cons, fillOnce, fillMember, named, if_neg new, toOption_bind]
      cases (field.ofValue record value).toOption with
      | none => rfl
      | some filled =>
        refine ih onceBehind (fun member behind again => ?_) filled
        rcases List.mem_cons.mp again with same | earlier
        · exact same ▸ onlyHere member behind same.symm
        · exact unseenBehind member behind earlier

section
variable {fields : List (RecordField σ)} (agree : ∀ field ∈ fields, ∀ value, field.Agrees value)
include agree

/-- As many items are read as there are fields, and then the array must be closed. -/
theorem readFields_spelled {first : Bool} {record : σ} {s rest : List Char} {items : List Value}
    (spelled : SpelledItems first s items rest) :
    (readFields fields first record s).toOption =
      if items.length ≤ fields.length then
        (fillItems fields record items).toOption.map fun filled => (filled, rest)
      else none := by
  induction fields generalizing first record s items with
  | nil =>
    cases spelled with
    | closed bracket =>
      simp only [readFields, closeArray, bracket]
      rfl
    | item separated here others =>
      rw [readFields, toOption_bind, closeArray_separated separated here.startsItem,
        if_neg (by simp)]
      rfl
  | cons field fields ih =>
    obtain ⟨agreesField, agreeFields⟩ := List.forall_mem_cons.mp agree
    cases spelled with
    | closed bracket =>
      simp only [readFields, nextItem_bracket first bracket, ok_bind]
      rfl
    | @item _ _ _ _ _ value items separated here others =>
      have read := agreesField value record (here.of_skipBlanks_eq (skipBlanks_skipBlanks _))
      simp only [readFields, nextItem_separated separated here.startsItem, ok_bind, toOption_bind,
        read, fillItems, List.length_cons, Nat.add_le_add_iff_right]
      cases (field.ofValue record value).toOption with
      | none => simp
      | some filled =>
        simp only [Option.map_some, Option.bind_some]
        exact ih agreeFields others

/-- A member is read as it fills the record, unless its field was named before. -/
theorem readMember_spelled (state : σ × List String) {key : String} {value : Value}
    {s t rest : List Char} (colon : skipBlanks s = ':' :: t) (spelled : Spelled t value rest) :
    (readMember fields state key s).toOption =
      (fillOnce fields state (key, value)).map fun state => (state, rest) := by
  obtain ⟨record, seen⟩ := state
  cases named : fields.find? (fun field => field.name = key) with
  | none =>
    simp only [readMember, fillOnce, named, readColon_begins colon, spelled.skip, ok_bind]
    rfl
  | some field =>
    have got := agree field (List.mem_of_find?_eq_some named) value record spelled
    simp only [readMember, fillOnce, named]
    by_cases old : key ∈ seen
    · rw [if_pos old, if_pos old]
      rfl
    · simp only [if_neg old, readColon_begins colon, ok_bind, toOption_bind, got]
      cases (field.ofValue record value).toOption <;> rfl

/-- A record is read from every spelling of its value. Only an object that names a field twice is
turned away where its value, in which the last one counts, is not. -/
theorem record_agrees (form : String) (start : σ) {value : Value}
    (once : ∀ members, value = .object members → NamedOnce fields members) :
    (record form fields start).Agrees value := by
  intro s rest spelled
  cases spelled with
  | array begins inside =>
    simp only [record, begins, readFields_spelled agree inside, toOption_bind]
    cases (fillItems fields start _).toOption with
    | none => simp
    | some filled => simp only [Option.map_some, Option.bind_some]; split <;> rfl
  | @object _ t _ members begins inside =>
    have read : (readMembers (readMember fields) (t.length + 1) true (start, []) t).toOption = _ :=
      readMembers_spelled (fun _ _ state => readMember_spelled agree state) inside
        (by have := inside.count; omega)
    have filled : (members.foldlM (fillOnce fields) (start, [])).map Prod.fst = _ :=
      foldlM_fillOnce (once members rfl) (fun _ _ seen => absurd seen List.not_mem_nil)
        start
    simp only [record, begins, toOption_bind, read, ← filled]
    cases members.foldlM (fillOnce fields) (start, []) <;> rfl
  | number begins starts =>
    simp [record, begins, startsNumber_ne starts, Except.toOption]
  | boolean b begins =>
    simp only [record, begins]
    cases b <;> rfl
  | null begins | string begins =>
    simp only [record, begins]
    rfl

end

/-- A text decodes as the value that it spells. -/
theorem parse_spelledBy {decoder : Decoder α} {value : Value} (agrees : decoder.Agrees value)
    {text : String} (spelled : value.SpelledBy text) :
    (decoder.parse text).toOption = (decoder.ofValue value).toOption := by
  obtain ⟨rest, spelled, blank⟩ := spelled
  simp only [parse, toOption_bind, agrees spelled, finish]
  cases (decoder.ofValue value).toOption with
  | none => rfl
  | some a => simp only [Option.map_some, Option.bind_some, blank]; rfl

end Decoder

end ShaderIdentity.Json
