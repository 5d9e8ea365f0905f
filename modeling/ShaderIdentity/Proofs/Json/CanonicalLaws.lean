import ShaderIdentity.Json.Value

/-! The canonical form of an object: its keys in order, each with the value written last. -/
namespace ShaderIdentity.Json

variable {α β : Type}

theorem lookup_cons_ite (look key : String) (value : α) (members : List (String × α)) :
    ((key, value) :: members).lookup look =
      if look = key then some value else members.lookup look := by
  by_cases same : look = key
  · rw [same, List.lookup_cons_self, if_pos rfl]
  · rw [List.lookup_cons, beq_false_of_ne same, if_neg same]

theorem lookup_insertMember (key look : String) (value : α) (members : List (String × α)) :
    (insertMember key value members).lookup look =
      if look = key then some value else members.lookup look := by
  induction members with
  | nil => exact lookup_cons_ite look key value []
  | cons member rest ih =>
    obtain ⟨other, old⟩ := member
    unfold insertMember
    split
    · exact lookup_cons_ite look key value _
    · split
      · rename_i equal
        subst equal
        simp only [lookup_cons_ite]
        split <;> rfl
      · rename_i other_ne
        simp only [lookup_cons_ite, ih]
        by_cases here : look = other
        · rw [if_pos here, if_neg (here ▸ Ne.symm other_ne), if_pos here]
        · rw [if_neg here, if_neg here]

/-- Of the members with one key, the last counts. -/
theorem lookup_sortMembers (look : String) (members : List (String × α)) :
    (sortMembers members).lookup look = members.reverse.lookup look := by
  have run : ∀ sorted : List (String × α),
      (members.foldl (fun sorted member => insertMember member.1 member.2 sorted) sorted).lookup
        look = (members.reverse.lookup look).or (sorted.lookup look) := by
    induction members with
    | nil => intro sorted; rfl
    | cons member rest ih =>
      intro sorted
      rw [List.foldl_cons, ih, lookup_insertMember, List.reverse_cons, List.lookup_append,
        Option.or_assoc]
      rw [lookup_cons_ite]
      split <;> simp
  rw [sortMembers, run, List.lookup_nil, Option.or_none]

theorem mem_of_mem_insertMember {key : String} {value : α} {members : List (String × α)}
    {member : String × α} (mem : member ∈ insertMember key value members) :
    member = (key, value) ∨ member ∈ members := by
  induction members with
  | nil => exact .inl (List.mem_singleton.mp mem)
  | cons first rest ih =>
    unfold insertMember at mem
    split at mem
    · exact List.mem_cons.mp mem
    · split at mem
      · rcases List.mem_cons.mp mem with here | there
        · exact .inl here
        · exact .inr (List.mem_cons_of_mem _ there)
      · rcases List.mem_cons.mp mem with here | there
        · exact .inr (here ▸ List.mem_cons_self)
        · exact (ih there).imp_right (List.mem_cons_of_mem _)

/-- Keys in strictly ascending order. -/
def Ordered (members : List (String × α)) : Prop :=
  members.Pairwise (fun a b => a.1 < b.1)

theorem Ordered.insertMember {members : List (String × α)} (ordered : Ordered members)
    (key : String) (value : α) : Ordered (insertMember key value members) := by
  induction members with
  | nil => exact List.pairwise_singleton _ _
  | cons first rest ih =>
    obtain ⟨below, others⟩ := List.pairwise_cons.mp ordered
    unfold Json.insertMember
    split
    · rename_i before
      refine List.pairwise_cons.mpr ⟨fun member mem => ?_, ordered⟩
      rcases List.mem_cons.mp mem with rfl | there
      · exact before
      · exact String.lt_trans before (below member there)
    · rename_i not_before
      split
      · rename_i equal
        subst equal
        exact List.pairwise_cons.mpr ⟨below, others⟩
      · rename_i other_ne
        refine List.pairwise_cons.mpr ⟨fun member mem => ?_, ih others⟩
        rcases mem_of_mem_insertMember mem with rfl | there
        · exact Std.lt_of_le_of_ne (String.not_lt.mp not_before) (Ne.symm other_ne)
        · exact below member there

theorem sortMembers_ordered (members : List (String × α)) : Ordered (sortMembers members) := by
  have run : ∀ sorted : List (String × α), Ordered sorted →
      Ordered (members.foldl (fun sorted member => insertMember member.1 member.2 sorted) sorted) := by
    induction members with
    | nil => exact fun _ ordered => ordered
    | cons member rest ih => exact fun _ ordered => ih _ (ordered.insertMember member.1 member.2)
  exact run [] List.Pairwise.nil

theorem insertMember_perm {key : String} {members : List (String × α)}
    (absent : key ∉ members.map Prod.fst) (value : α) :
    (insertMember key value members).Perm ((key, value) :: members) := by
  induction members with
  | nil => exact List.Perm.refl _
  | cons first rest ih =>
    obtain ⟨other, others⟩ := not_or.mp (mt List.mem_cons.mpr absent)
    unfold insertMember
    rw [if_neg other]
    split
    · exact List.Perm.refl _
    · exact ((ih others).cons first).trans (List.Perm.swap _ _ _)

/-- Nothing is lost when no key is written twice. -/
theorem sortMembers_perm {members : List (String × α)} (distinct : (members.map Prod.fst).Nodup) :
    (sortMembers members).Perm members := by
  have run : ∀ (rest sorted : List (String × α)), ((sorted ++ rest).map Prod.fst).Nodup →
      (rest.foldl (fun sorted member => insertMember member.1 member.2 sorted) sorted).Perm
        (sorted ++ rest) := by
    intro rest
    induction rest with
    | nil => exact fun sorted _ => by rw [List.append_nil]; exact List.Perm.refl _
    | cons member rest ih =>
      intro sorted distinct
      have moved : (sorted ++ member :: rest).Perm (member :: sorted ++ rest) :=
        List.perm_middle
      have distinct := (moved.map Prod.fst).nodup distinct
      have absent : member.1 ∉ sorted.map Prod.fst := by
        rw [List.cons_append, List.map_cons, List.map_append] at distinct
        exact fun mem => (List.nodup_cons.mp distinct).1 (List.mem_append_left _ mem)
      have inserted := (insertMember_perm absent member.2).append_right rest
      exact (ih _ ((inserted.map Prod.fst).nodup_iff.mpr distinct)).trans
        (inserted.trans moved.symm)
  exact run members [] distinct

theorem insertMember_map (f : α → β) (key : String) (value : α) (members : List (String × α)) :
    insertMember key (f value) (members.map (Prod.map id f)) =
      (insertMember key value members).map (Prod.map id f) := by
  induction members with
  | nil => rfl
  | cons first rest ih =>
    simp only [List.map_cons, Prod.map, id, insertMember]
    split
    · rfl
    · split
      · rfl
      · rw [List.map_cons, ← ih]
        rfl

/-- Values have no say in the order. -/
theorem sortMembers_map (f : α → β) (members : List (String × α)) :
    sortMembers (members.map (Prod.map id f)) = (sortMembers members).map (Prod.map id f) := by
  have run : ∀ sorted : List (String × α),
      (members.map (Prod.map id f)).foldl
          (fun sorted member => insertMember member.1 member.2 sorted)
          (sorted.map (Prod.map id f)) =
        (members.foldl (fun sorted member => insertMember member.1 member.2 sorted) sorted).map
          (Prod.map id f) := by
    induction members with
    | nil => exact fun _ => rfl
    | cons member rest ih =>
      intro sorted
      rw [List.map_cons, List.foldl_cons, List.foldl_cons, ← ih, ← insertMember_map]
      rfl
  exact run []

theorem canonicalMembers_eq_map (members : List (String × Value)) :
    Value.canonicalMembers members = members.map (Prod.map id Value.canonical) := by
  induction members with
  | nil => rfl
  | cons member rest ih =>
    rw [Value.canonicalMembers, ih]
    rfl

theorem canonical_eq_object {value : Value} {members : List (String × Value)}
    (same : value.canonical = .object members) :
    ∃ written, value = .object written ∧
      members = sortMembers (Value.canonicalMembers written) := by
  cases value with
  | object written =>
    rw [Value.canonical] at same
    cases same
    exact ⟨written, rfl, rfl⟩
  | null | boolean | number | string | array => rw [Value.canonical] at same; cases same

theorem mem_of_lookup {key : String} {value : α} {members : List (String × α)}
    (found : members.lookup key = some value) : (key, value) ∈ members := by
  induction members with
  | nil => cases found
  | cons member rest ih =>
    obtain ⟨other, old⟩ := member
    rw [lookup_cons_ite] at found
    split at found
    · rename_i same
      cases found
      rw [same]
      exact List.mem_cons_self
    · exact List.mem_cons_of_mem _ (ih found)

/-- What is found in canonical form is the canonical form of something written. -/
theorem written_of_lookup {members : List (String × Value)} {key : String} {value : Value}
    (found : (sortMembers (Value.canonicalMembers members)).lookup key = some value) :
    ∃ written : Value, (key, written) ∈ members ∧ value = written.canonical := by
  rw [lookup_sortMembers] at found
  have mem := List.mem_reverse.mp (mem_of_lookup found)
  rw [canonicalMembers_eq_map] at mem
  obtain ⟨⟨_, written⟩, here, same⟩ := List.mem_map.mp mem
  cases same
  exact ⟨written, here, rfl⟩

end ShaderIdentity.Json
