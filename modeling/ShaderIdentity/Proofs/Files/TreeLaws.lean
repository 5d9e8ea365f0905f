import ShaderIdentity.Files.Tree

/-! What a change to a file tree keeps. A path that could be followed can still be followed as
long as every directory stays one. -/
namespace ShaderIdentity

namespace FileTree

variable {tree other : FileTree} {location : Location}

/-- Every directory of one tree is a directory of the other. -/
def DirectoriesKept (tree other : FileTree) : Prop :=
  ∀ location, tree.node? location = some .directory → other.node? location = some .directory

theorem DirectoriesKept.trans {a b c : FileTree} (ab : DirectoriesKept a b)
    (bc : DirectoriesKept b c) : DirectoriesKept a c :=
  fun location was => bc location (ab location was)

/-- The trees have the same directories. -/
def SameDirectories (tree other : FileTree) : Prop :=
  DirectoriesKept tree other ∧ DirectoriesKept other tree

theorem SameDirectories.trans {a b c : FileTree} (ab : SameDirectories a b)
    (bc : SameDirectories b c) : SameDirectories a c :=
  ⟨ab.1.trans bc.1, bc.2.trans ab.2⟩

/-- Where a file may stand in one of the trees, it may stand in the other. -/
theorem SameDirectories.unoccupied (same : SameDirectories tree other)
    (unoccupied : tree.node? location ≠ some .directory) :
    other.node? location ≠ some .directory :=
  fun occupied => unoccupied (same.2 location occupied)

theorem node?_top (tree : FileTree) : tree.node? [] = some .directory := rfl

/-- Only the top cannot be put anew. -/
theorem node?_put (tree : FileTree) (location : Location) (node : Node) (shown : Location)
    (below : shown ≠ []) :
    (tree.put location node).node? shown = if location = shown then some node
      else tree.node? shown := by
  have filled : shown.isEmpty = false := List.isEmpty_eq_false_iff.mpr below
  simp only [node?, put, filled, Bool.false_eq_true, if_false, Std.ExtTreeMap.getElem?_insert,
    Std.LawfulEqOrd.compare_eq_iff_eq]

theorem node?_put_self (tree : FileTree) (node : Node) (below : location ≠ []) :
    (tree.put location node).node? location = some node := by
  rw [node?_put _ _ _ _ below, if_pos rfl]

theorem node?_put_of_ne (tree : FileTree) (node : Node) {shown : Location}
    (ne : location ≠ shown) : (tree.put location node).node? shown = tree.node? shown := by
  by_cases top : shown = []
  · subst top
    rfl
  · rw [node?_put _ _ _ _ top, if_neg ne]

theorem node?_erase (tree : FileTree) (location shown : Location) (below : shown ≠ []) :
    (FileTree.mk (tree.nodes.erase location)).node? shown = if location = shown then none
      else tree.node? shown := by
  have filled : shown.isEmpty = false := List.isEmpty_eq_false_iff.mpr below
  simp only [node?, filled, Bool.false_eq_true, if_false, Std.ExtTreeMap.getElem?_erase,
    Std.LawfulEqOrd.compare_eq_iff_eq]

theorem ne_top_of_not_directory (unoccupied : tree.node? location ≠ some .directory) :
    location ≠ [] := by
  rintro rfl
  exact unoccupied rfl

theorem put_file_same (content : ByteArray) (unoccupied : tree.node? location ≠ some .directory) :
    SameDirectories tree (tree.put location (.file content)) := by
  have below := ne_top_of_not_directory unoccupied
  constructor
  · intro shown was
    have ne : location ≠ shown := by
      rintro rfl
      exact unoccupied was
    rw [node?_put_of_ne _ _ ne, was]
  · intro shown is
    by_cases same : location = shown
    · rw [← same, node?_put_self _ _ below] at is
      cases is
    · rwa [node?_put_of_ne _ _ same] at is

theorem put_directory_kept (tree : FileTree) (location : Location) :
    DirectoriesKept tree (tree.put location .directory) := by
  intro shown was
  by_cases top : shown = []
  · rw [top, node?_top]
  · rw [node?_put _ _ _ _ top, was, ite_self]

theorem erase_same (unoccupied : tree.node? location ≠ some .directory) :
    SameDirectories tree ⟨tree.nodes.erase location⟩ := by
  constructor
  · intro shown was
    by_cases top : shown = []
    · rw [top, node?_top]
    · have ne : location ≠ shown := by
        rintro rfl
        exact unoccupied was
      rw [node?_erase _ _ _ top, if_neg ne, was]
  · intro shown is
    by_cases top : shown = []
    · rw [top, node?_top]
    · rw [node?_erase _ _ _ top] at is
      split at is
      · cases is
      · exact is

theorem walk_kept (kept : DirectoriesKept tree other) {here : Location} {names : List String}
    (led : tree.walk here names = .ok location) : other.walk here names = .ok location := by
  induction names generalizing here with
  | nil => exact led
  | cons name names ih =>
    rw [walk] at led ⊢
    cases shown : tree.node? here with
    | none => simp [shown] at led
    | some node =>
      cases node with
      | file content => simp [shown] at led
      | directory =>
        rw [kept here shown]
        simp only [shown] at led ⊢
        split at led
        case isTrue named =>
          rw [if_pos named]
          exact ih led
        case isFalse => cases led

theorem locate_kept (kept : DirectoriesKept tree other) {path : String}
    (led : tree.locate path = .ok location) : other.locate path = .ok location := by
  unfold locate at led ⊢
  split at led
  case isTrue => cases led
  case isFalse filled =>
    split at led
    case isTrue usable =>
      rw [if_neg filled, if_pos usable]
      exact walk_kept kept led
    case isFalse => cases led

/-- A file may be created or replaced at a path: there is no directory where it leads, and it does
not ask for one. -/
theorem target_ok {path : String} :
    tree.target path = .ok location ↔ tree.locate path = .ok location ∧
      tree.node? location ≠ some .directory ∧ Path.namesDirectory path = false := by
  rw [target]
  cases led : tree.locate path with
  | error err => simp [bind, Except.bind]
  | ok found =>
    have opened (goOn : Location → Except FileError Location) :
        (Except.ok found >>= goOn) = goOn found := rfl
    rw [Except.ok.injEq, opened]
    split
    case h_1 occupied =>
      constructor
      · intro free
        cases free
      · rintro ⟨rfl, unoccupied, -⟩
        exact absurd occupied unoccupied
    case h_2 unoccupied =>
      cases ends : Path.namesDirectory path with
      | true => simp [throw, throwThe, MonadExceptOf.throw, bind, Except.bind]
      | false =>
        simp only [Bool.false_eq_true, if_false, pure, Except.pure, Except.ok.injEq, and_true]
        constructor
        · rintro rfl
          exact ⟨rfl, unoccupied⟩
        · rintro ⟨rfl, -⟩
          rfl

theorem write_ok {path : String} {content : ByteArray} :
    tree.write path content = .ok other ↔
      ∃ location, tree.target path = .ok location ∧ other = tree.put location (.file content) := by
  rw [write]
  cases free : tree.target path with
  | error err => simp [bind, Except.bind]
  | ok location => simp [bind, Except.bind, pure, Except.pure, eq_comm]

theorem rename_ok {source path : String} :
    tree.rename source path = .ok other ↔ ∃ location content goal,
      tree.locate source = .ok location ∧ tree.node? location = some (.file content) ∧
        tree.target path = .ok goal ∧
        other = (FileTree.mk (tree.nodes.erase location)).put goal (.file content) := by
  rw [rename]
  cases led : tree.locate source with
  | error err => simp [bind, Except.bind]
  | ok location =>
    cases shown : tree.node? location with
    | none => simp [bind, Except.bind, shown]
    | some node =>
      cases node with
      | directory => simp [bind, Except.bind, shown]
      | file content =>
        cases free : tree.target path with
        | error err => simp [bind, Except.bind, shown]
        | ok goal => simp [bind, Except.bind, shown, pure, Except.pure, eq_comm]

theorem readText_file {path text : String} (led : tree.locate path = .ok location)
    (shown : tree.node? location = some (.file text.toUTF8))
    (named : Path.namesDirectory path = false) : tree.readText path = .ok text := by
  have whole : String.fromUTF8? text.toByteArray = some text := dif_pos text.isValidUTF8
  rw [readText, led]
  simp [bind, Except.bind, shown, named, whole, pure, Except.pure]

theorem readText_kept (kept : DirectoriesKept tree other) {path text : String}
    (same : ∀ location, tree.locate path = .ok location →
      other.node? location = tree.node? location)
    (read : tree.readText path = .ok text) : other.readText path = .ok text := by
  cases led : tree.locate path with
  | error err =>
    rw [readText, led] at read
    cases read
  | ok location =>
    rw [readText, led] at read
    rw [readText, locate_kept kept led]
    simp only [bind, Except.bind, same location led] at read ⊢
    exact read

/-! ## Directories made on the way -/

theorem makeDirectories_kept (tree : FileTree) (here : Location) (names : List String) :
    DirectoriesKept tree (tree.makeDirectories here names).1 := by
  induction names generalizing tree here with
  | nil => exact fun _ was => was
  | cons name names ih =>
    rw [makeDirectories]
    split
    case isTrue =>
      split
      · exact ih tree _
      · exact fun _ was => was
      · exact (tree.put_directory_kept _).trans (ih _ _)
    case isFalse => exact fun _ was => was

theorem makeParents_kept (tree : FileTree) (path : String) :
    DirectoriesKept tree (tree.makeParents path).1 := by
  unfold makeParents
  split
  · exact tree.makeDirectories_kept _ _
  · exact fun _ was => was

/-- Directories that were made are not made again. -/
theorem makeDirectories_again {here : Location} {names : List String} {made : FileTree}
    (done : tree.makeDirectories here names = (made, .ok ())) (kept : DirectoriesKept made other) :
    other.makeDirectories here names = (other, .ok ()) := by
  induction names generalizing tree here with
  | nil => rfl
  | cons name names ih =>
    rw [makeDirectories] at done ⊢
    split at done
    case isTrue named =>
      rw [if_pos named]
      split at done
      case h_1 was =>
        have there := tree.makeDirectories_kept (child here name) names _ was
        rw [done] at there
        rw [kept _ there]
        exact ih done
      case h_2 => cases done
      case h_3 was =>
        have below : child here name ≠ [] := ne_top_of_not_directory (by rw [was]; simp)
        have there := (tree.put (child here name) .directory).makeDirectories_kept
          (child here name) names _ (node?_put_self tree _ below)
        rw [done] at there
        rw [kept _ there]
        exact ih done
    case isFalse => cases done

theorem makeParents_again {path : String} {made : FileTree}
    (done : tree.makeParents path = (made, .ok ())) (kept : DirectoriesKept made other) :
    other.makeParents path = (other, .ok ()) := by
  unfold makeParents at done ⊢
  split at done
  case isTrue usable =>
    rw [if_pos usable]
    exact makeDirectories_again done kept
  case isFalse => cases done

end FileTree

end ShaderIdentity
