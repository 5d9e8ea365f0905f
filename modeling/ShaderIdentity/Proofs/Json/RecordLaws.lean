import ShaderIdentity.Proofs.Json.CanonicalLaws
import ShaderIdentity.Proofs.Json.TypedReading

/-! What a record is filled with. An array gives the first fields in order. In an object the order
of the members has no say, as long as every field fills a part of its own. -/
namespace ShaderIdentity.Json.Decoder

variable {α β σ : Type}

/-- Fills in the fields that are given a value, in the order of the fields. -/
def fillGiven : List (RecordField σ × Option Value) → σ → Except Mismatch σ
  | [], record => .ok record
  | (_, none) :: others, record => fillGiven others record
  | (field, some value) :: others, record => do
    fillGiven others (← field.ofValue record value)

/-- The fields that an array gives are the first ones. -/
def givenInOrder (items : List Value) (fields : List (RecordField σ)) :
    List (RecordField σ × Option Value) :=
  fields.mapIdx fun i field => (field, items[i]?)

theorem fillItems_eq (fields : List (RecordField σ)) (record : σ) (items : List Value) :
    fillItems fields record items = fillGiven (givenInOrder items fields) record := by
  unfold givenInOrder
  induction fields generalizing record items with
  | nil => rfl
  | cons field fields ih =>
    rw [List.mapIdx_cons]
    cases items with
    | nil =>
      have none_given := ih record []
      simpa [fillGiven, fillItems] using none_given
    | cons item items =>
      simp only [fillItems, List.getElem?_cons_zero, List.getElem?_cons_succ, fillGiven, ih]

/-- It makes no difference which of the two fields is filled first. -/
def Commute (f g : RecordField σ) : Prop :=
  ∀ record v w, (do g.ofValue (← f.ofValue record v) w).toOption =
    (do f.ofValue (← g.ofValue record w) v).toOption

theorem field_commute {d : Decoder α} {e : Decoder β} {f : σ → α → σ} {g : σ → β → σ}
    (apart : ∀ record a b, g (f record a) b = f (g record b) a) (m n : String) :
    Commute (field m d f) (field n e g) := by
  intro record v w
  simp only [field, toOption_bind, toOption_map]
  cases (d.ofValue v).toOption <;> cases (e.ofValue w).toOption <;> simp [apart]

/-- What one field is given can be filled in before the others. -/
theorem fillGiven_first {before after : List (RecordField σ × Option Value)} {f : RecordField σ}
    (commute : ∀ given ∈ before, Commute given.1 f) (value : Value) (record : σ) :
    (fillGiven (before ++ (f, some value) :: after) record).toOption =
      (f.ofValue record value).toOption.bind fun record =>
        (fillGiven (before ++ (f, none) :: after) record).toOption := by
  induction before generalizing record with
  | nil => exact toOption_bind _ _
  | cons given before ih =>
    obtain ⟨here, others⟩ := List.forall_mem_cons.mp commute
    obtain ⟨g, _ | w⟩ := given
    · exact ih others record
    · have swapped := here record w value
      simp only [toOption_bind] at swapped
      simp only [List.cons_append, fillGiven, toOption_bind, ih others, ← Option.bind_assoc]
      rw [swapped]

/-- What the members of an object give each field. -/
def givenBy (members : List (String × Value)) (fields : List (RecordField σ)) :
    List (RecordField σ × Option Value) :=
  fields.map fun field => (field, members.lookup field.name)

theorem fillGiven_nothing (fields : List (RecordField σ)) (record : σ) :
    fillGiven (givenBy [] fields) record = .ok record := by
  induction fields with
  | nil => rfl
  | cons field fields ih => exact ih

theorem givenBy_cons {key : String} {value : Value} {fields : List (RecordField σ)}
    (unnamed : ∀ field ∈ fields, field.name ≠ key) (members : List (String × Value)) :
    givenBy ((key, value) :: members) fields = givenBy members fields :=
  List.map_congr_left fun field mem => by rw [lookup_cons_ite, if_neg (unnamed field mem)]

theorem givenBy_split (members : List (String × Value)) (before after : List (RecordField σ))
    (field : RecordField σ) :
    givenBy members (before ++ field :: after) =
      givenBy members before ++ (field, members.lookup field.name) :: givenBy members after := by
  rw [givenBy, List.map_append, List.map_cons]
  rfl

/-- The fields of an object are filled in any order of its members. -/
theorem foldlM_fillMember {fields : List (RecordField σ)} (commute : fields.Pairwise Commute)
    (named : (fields.map (·.name)).Nodup) {members : List (String × Value)}
    (once : NamedOnce fields members) (record : σ) :
    (members.foldlM (fillMember fields) record).toOption =
      (fillGiven (givenBy members fields) record).toOption := by
  induction members generalizing record with
  | nil => exact congrArg Except.toOption (fillGiven_nothing fields record).symm
  | cons member members ih =>
    obtain ⟨key, value⟩ := member
    obtain ⟨onlyHere, onceBehind⟩ := List.pairwise_cons.mp once
    rw [List.foldlM_cons, toOption_bind]
    cases found : fields.find? (fun field => field.name = key) with
    | none =>
      have unnamed : ∀ field ∈ fields, field.name ≠ key := by simpa using found
      simp only [fillMember, found, givenBy_cons unnamed]
      exact ih onceBehind record
    | some field =>
      obtain ⟨name, before, after, rfl, earlier⟩ := List.find?_eq_some_iff_append.mp found
      obtain rfl : field.name = key := of_decide_eq_true name
      have unnamedBefore : ∀ other ∈ before, other.name ≠ field.name := by simpa using earlier
      have unnamedAfter : ∀ other ∈ after, other.name ≠ field.name := by
        intro other mem same
        rw [List.map_append, List.map_cons] at named
        exact (List.nodup_cons.mp (List.nodup_append.mp named).2.1).1
          (List.mem_map.mpr ⟨other, mem, same⟩)
      -- The member is the only one with its key, so nothing is given behind it.
      have last : members.lookup field.name = none := by
        refine List.lookup_eq_none_iff.mpr fun member mem => ?_
        have another : field.name ≠ member.1 := fun same =>
          onlyHere member mem same field (by simp) rfl
        simpa using another
      have first : ∀ given ∈ givenBy members before, Commute given.1 field := by
        intro given mem
        obtain ⟨other, here, rfl⟩ := List.mem_map.mp mem
        exact (List.pairwise_append.mp commute).2.2 other here field List.mem_cons_self
      simp only [fillMember, found, ih onceBehind, givenBy_split, givenBy_cons unnamedBefore,
        givenBy_cons unnamedAfter, lookup_cons_ite, if_true, last, fillGiven_first first]

/-- A record is filled by an object with its fields as members, or by an array that is no longer
than the fields. -/
theorem record_ofValue {fields : List (RecordField σ)} (commute : fields.Pairwise Commute)
    (named : (fields.map (·.name)).Nodup) (form : String) (start : σ) {value : Value}
    (once : ∀ members, value = .object members → NamedOnce fields members) (filled : σ) :
    (record form fields start).ofValue value = .ok filled ↔
      (∃ members, value = .object members ∧
        fillGiven (givenBy members fields) start = .ok filled) ∨
      ∃ items, value = .array items ∧ items.length ≤ fields.length ∧
        fillGiven (givenInOrder items fields) start = .ok filled := by
  cases value with
  | object members =>
    have same := foldlM_fillMember commute named (once members rfl) start
    rw [record_ofValue_object, ← toOption_eq_some, same, toOption_eq_some]
    simp
  | array items =>
    simp only [record, fillItems_eq]
    cases filling : fillGiven (givenInOrder items fields) start with
    | error cause => simp [filling, bind, Except.bind]
    | ok given =>
      rw [ok_bind]
      by_cases short : items.length ≤ fields.length
      · simp [short, filling, pure, Except.pure]
      · simp [short]
  | null | boolean | number | string => simp [record]

/-- What a field comes to when a value is given or nothing is. -/
def decoded? (decoder : Decoder α) (absent : α) : Option Value → Option α
  | none => some absent
  | some value => (decoder.ofValue value).toOption

/-- A field that is given nothing keeps what it is. -/
theorem fillGiven_field {decoder : Decoder α} {fill : σ → α → σ} {record : σ} {current : α}
    (kept : fill record current = record) (name : String) (given : Option Value)
    (others : List (RecordField σ × Option Value)) :
    (fillGiven ((field name decoder fill, given) :: others) record).toOption =
      (decoded? decoder current given).bind fun a =>
        (fillGiven others (fill record a)).toOption := by
  cases given with
  | none =>
    rw [decoded?, Option.bind_some, kept]
    rfl
  | some value =>
    simp only [fillGiven, field, decoded?, toOption_bind, toOption_map]
    cases (decoder.ofValue value).toOption <;> rfl

end ShaderIdentity.Json.Decoder
