import ShaderIdentity.Proofs.Files.Descent

/-! Trees that differ in one file. A path that leads elsewhere leads to the same in both, even when
it goes through the place of that file: neither lets it through. -/
namespace ShaderIdentity

/-! ## Names of a path that was put together -/

theorem splitAt_separated (separator : Char) (text rest : List Char) :
    splitAt separator (text ++ separator :: rest) =
      splitAt separator text ++ splitAt separator rest := by
  induction text with
  | nil => simp [splitAt]
  | cons c text ih =>
    obtain ⟨front, last, parts, -⟩ := splitAt_append separator text (List.not_mem_nil)
    by_cases separates : c = separator
    · simp [splitAt, separates, ih]
    · cases front <;> simp [splitAt, separates, ih, parts]

namespace Path

theorem names_separated {path : String} {front rest : List Char}
    (parts : path.toList = front ++ '/' :: rest) :
    names path = names (.ofList front) ++ names (.ofList rest) := by
  simp only [names, parts, String.toList_ofList, splitAt_separated, List.filter_append,
    List.map_append]

theorem names_empty : names "" = [] := rfl

theorem names_single {name : String} (plain : '/' ∉ name.toList)
    (leads : isIdle name.toList = false) : names name = [name] := by
  simp [names, splitAt_plain plain, leads]

/-- Whether a separator is put between the two makes no difference to where they lead. -/
theorem names_join (directory name : String) :
    names (join directory name) = names directory ++ names name := by
  rw [join]
  split
  case isTrue ends =>
    by_cases top : directory = ""
    · rw [top, names_empty, String.empty_append, List.nil_append]
    · obtain ⟨front, parts⟩ : ∃ front, directory.toList = front ++ ['/'] := by
        simpa [top, List.getLast?_eq_some_iff] using ends
      have whole : (directory ++ name).toList = front ++ '/' :: name.toList := by
        rw [String.toList_append, parts, List.append_assoc]
        rfl
      have nothing : names (.ofList []) = [] := rfl
      rw [names_separated parts, names_separated whole, nothing, List.append_nil,
        String.ofList_toList]
  case isFalse =>
    have whole : (directory ++ "/" ++ name).toList = directory.toList ++ '/' :: name.toList := by
      rw [String.toList_append, String.toList_append, List.append_assoc]
      rfl
    rw [names_separated whole, String.ofList_toList, String.ofList_toList]

end Path

namespace FileTree

variable {tree other : FileTree} {location : Location} {path : String}

theorem walk_append {here : Location} {names later : List String}
    (led : tree.walk here (names ++ later) = .ok location) :
    ∃ there, tree.walk here names = .ok there ∧ tree.walk there later = .ok location := by
  induction names generalizing here with
  | nil => exact ⟨here, rfl, led⟩
  | cons name names ih =>
    rw [List.cons_append, walk] at led
    rw [walk]
    split at led
    case h_1 | h_2 => cases led
    case h_3 =>
      split at led
      case isTrue named =>
        rw [if_pos named]
        exact ih led
      case isFalse => cases led

/-! ## One file -/

/-- The trees differ in nothing but the file that the path names. Only one of them may have it, or
its content may be another. -/
structure ApartInFile (tree other : FileTree) (path : String) : Prop where
  elsewhere : ∀ location, tree.locate path ≠ .ok location →
    other.node? location = tree.node? location
  file : ∀ location, tree.locate path = .ok location →
    tree.node? location ≠ some .directory ∧ other.node? location ≠ some .directory

namespace ApartInFile

/-- A file that is removed makes such a difference. -/
theorem of_remove {content : ByteArray} (led : tree.locate path = .ok location)
    (shown : tree.node? location = some (.file content)) :
    ApartInFile tree (tree.remove path) path := by
  have unoccupied : tree.node? location ≠ some .directory := by
    rw [shown]
    exact fun same => nomatch same
  have below := ne_top_of_not_directory unoccupied
  simp only [remove, led, shown]
  cases Path.namesDirectory path with
  | true =>
    refine ⟨fun _ _ => rfl, fun other there => ?_⟩
    obtain rfl : location = other := Except.ok.inj (led.symm.trans there)
    exact ⟨unoccupied, unoccupied⟩
  | false =>
    constructor
    · intro other notThere
      have ne : location ≠ other := by
        rintro rfl
        exact notThere led
      by_cases top : other = []
      · rw [top]
        rfl
      · simp only [Bool.false_eq_true, if_false]
        rw [node?_erase _ _ _ top, if_neg ne]
    · intro other there
      obtain rfl : location = other := Except.ok.inj (led.symm.trans there)
      refine ⟨unoccupied, ?_⟩
      simp only [Bool.false_eq_true, if_false]
      rw [node?_erase _ _ _ below, if_pos rfl]
      exact fun same => nomatch same

theorem sameDirectories (apart : ApartInFile tree other path) : SameDirectories tree other := by
  constructor
  · intro location was
    rw [apart.elsewhere location fun there => (apart.file location there).1 was]
    exact was
  · intro location is
    rw [← apart.elsewhere location fun there => (apart.file location there).2 is]
    exact is

/-- A text that stands elsewhere is in both trees or in neither. -/
theorem readText_toOption (apart : ApartInFile tree other path) {shown : String}
    (elsewhere : ∀ location, tree.locate shown = .ok location → tree.locate path ≠ .ok location) :
    (other.readText shown).toOption = (tree.readText shown).toOption := by
  obtain ⟨onward, back⟩ := apart.sameDirectories
  have kept {text : String} : tree.readText shown = .ok text → other.readText shown = .ok text :=
    readText_kept onward fun location led => apart.elsewhere location (elsewhere location led)
  have was {text : String} : other.readText shown = .ok text → tree.readText shown = .ok text := by
    refine readText_kept back fun location led => ?_
    exact (apart.elsewhere location (elsewhere location (locate_kept back led))).symm
  cases read : tree.readText shown with
  | ok text => rw [kept read]
  | error err =>
    cases readToo : other.readText shown with
    | error => rfl
    | ok text =>
      rw [was readToo] at read
      cases read

end ApartInFile

end FileTree

end ShaderIdentity
