import ShaderIdentity.Proofs.Files.TreeLaws

/-! Paths that lead down only: they lead where their names say, and what is made on the way lies
above that. -/
namespace ShaderIdentity

/-! ## A path and one that is longer by a suffix -/

theorem splitAt_plain {separator : Char} {part : List Char} (plain : separator ∉ part) :
    splitAt separator part = [part] := by
  induction part with
  | nil => rfl
  | cons c rest ih =>
    rw [List.mem_cons, not_or] at plain
    rw [splitAt, if_neg (Ne.symm plain.1), ih plain.2]

theorem splitAt_append (separator : Char) (text : List Char) {suffix : List Char}
    (plain : separator ∉ suffix) : ∃ front last, splitAt separator text = front ++ [last] ∧
      splitAt separator (text ++ suffix) = front ++ [last ++ suffix] := by
  induction text with
  | nil => exact ⟨[], [], rfl, splitAt_plain plain⟩
  | cons c rest ih =>
    obtain ⟨front, last, whole, longer⟩ := ih
    by_cases separates : c = separator
    · exact ⟨[] :: front, last, by simp [splitAt, separates, whole],
        by simp [splitAt, separates, longer]⟩
    · cases front with
      | nil =>
        exact ⟨[], c :: last, by simp [splitAt, separates, whole],
          by simp [splitAt, separates, longer]⟩
      | cons part front =>
        exact ⟨(c :: part) :: front, last, by simp [splitAt, separates, whole],
          by simp [splitAt, separates, longer]⟩

namespace Path

/-- A suffix goes to the last name; a path that ends without one gets one. -/
theorem names_append (path : String) {suffix : String} (plain : '/' ∉ suffix.toList)
    (leads : ∀ part : List Char, isIdle (part ++ suffix.toList) = false) :
    ∃ front last, names path = front ++ (if isIdle last then [] else [String.ofList last]) ∧
      names (path ++ suffix) = front ++ [String.ofList (last ++ suffix.toList)] := by
  obtain ⟨front, last, whole, longer⟩ := splitAt_append '/' path.toList plain
  refine ⟨(front.filter (!isIdle ·)).map String.ofList, last, ?_, ?_⟩
  · rw [names, whole]
    cases idle : isIdle last <;> simp [idle]
  · rw [names, String.toList_append, longer]
    simp [leads last]

end Path

namespace FileTree

variable {tree made other : FileTree} {here goal location : Location} {names : List String}

theorem child_of_ne {here : Location} {name : String} (down : name ≠ "..") :
    child here name = here ++ [name] :=
  if_neg down

theorem walk_down (down : ".." ∉ names) (led : tree.walk here names = .ok location) :
    location = here ++ names := by
  induction names generalizing here with
  | nil =>
    cases led
    exact (List.append_nil _).symm
  | cons name names ih =>
    rw [List.mem_cons, not_or] at down
    obtain ⟨first, down⟩ := down
    rw [walk, child_of_ne (Ne.symm first)] at led
    split at led
    case h_1 | h_2 => cases led
    case h_3 =>
      split at led
      case isTrue =>
        rw [ih down led]
        exact List.append_assoc here [name] names
      case isFalse => cases led

theorem walk_of_locate {path : String} (led : tree.locate path = .ok location) :
    tree.walk [] (Path.names path) = .ok location := by
  unfold locate at led
  split at led
  case isTrue => cases led
  case isFalse =>
    split at led
    case isTrue => exact led
    case isFalse => cases led

theorem locate_down {path : String} (down : ".." ∉ Path.names path)
    (led : tree.locate path = .ok location) : location = Path.names path :=
  walk_down down (walk_of_locate led)

/-- The location is as it was, or a directory that the goal lies below has been made there. -/
def KeptOrMade (tree other : FileTree) (goal location : Location) : Prop :=
  other.node? location = tree.node? location ∨
    (location <+: goal ∧ location ≠ goal) ∧ tree.node? location = none ∧
      other.node? location = some .directory

theorem KeptOrMade.of_same (kept : tree.KeptOrMade made goal location)
    (same : other.node? location = made.node? location) : tree.KeptOrMade other goal location := by
  rw [KeptOrMade, same]
  exact kept

/-- Directories are made above the goal only. -/
theorem KeptOrMade.kept (kept : tree.KeptOrMade other goal location)
    (notAbove : ¬ (location <+: goal ∧ location ≠ goal)) :
    other.node? location = tree.node? location :=
  kept.resolve_right fun made => notAbove made.1

theorem makeDirectories_down (tree : FileTree) (here : Location) (down : ".." ∉ names)
    (shown : Location) :
    (tree.makeDirectories here names).1.node? shown = tree.node? shown ∨
      shown <+: here ++ names ∧ tree.node? shown = none ∧
        (tree.makeDirectories here names).1.node? shown = some .directory := by
  induction names generalizing tree here with
  | nil => exact .inl rfl
  | cons name names ih =>
    rw [List.mem_cons, not_or] at down
    obtain ⟨first, down⟩ := down
    have onward : here ++ [name] ++ names = here ++ name :: names :=
      List.append_assoc here [name] names
    rw [makeDirectories, child_of_ne (Ne.symm first)]
    split
    case isTrue =>
      split
      case h_1 =>
        rw [← onward]
        exact ih tree _ down
      case h_2 => exact .inl rfl
      case h_3 absent =>
        rw [← onward]
        have below : here ++ [name] ≠ [] := by simp
        by_cases same : here ++ [name] = shown
        · subst same
          have made := node?_put_self tree .directory below
          refine .inr ⟨List.prefix_append _ _, absent, ?_⟩
          exact makeDirectories_kept (tree.put (here ++ [name]) .directory) _ names _ made
        · rw [← node?_put_of_ne tree .directory same]
          exact ih (tree.put (here ++ [name]) .directory) _ down
    case isFalse => exact .inl rfl

theorem makeParents_keptOrMade (tree : FileTree) {path : String} (down : ".." ∉ Path.names path)
    (shown : Location) :
    tree.KeptOrMade (tree.makeParents path).1 (Path.names path) shown := by
  rw [makeParents]
  split
  case isFalse => exact .inl rfl
  case isTrue =>
    have downToParent : ".." ∉ (Path.names path).dropLast :=
      fun mem => down ((List.dropLast_prefix _).mem mem)
    obtain same | ⟨above, absent, made⟩ :=
      tree.makeDirectories_down [] downToParent shown
    · exact .inl same
    · refine .inr ⟨⟨above.trans (List.dropLast_prefix _), ?_⟩, absent, made⟩
      rintro rfl
      have short := above.length_le
      have filled := List.length_pos_iff.mpr (ne_top_of_not_directory (by rw [absent]; simp))
      rw [List.nil_append, List.length_dropLast] at short
      omega

end FileTree

end ShaderIdentity
