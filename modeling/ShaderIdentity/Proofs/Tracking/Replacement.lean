import ShaderIdentity.Proofs.Files.Apart
import ShaderIdentity.Tracking.Archive

/-! The replacement of a document: what it leaves, and that it can be repeated. -/
namespace ShaderIdentity

namespace Archive

open FileTree

variable {files after : FileTree} {path text : String}

/-- The tree once the draft is written at its location. -/
def drafted (made : FileTree) (draft : Location) (text : String) : FileTree :=
  made.put draft (.file text.toUTF8)

/-- The tree once the draft has been moved to the goal. -/
def published (made : FileTree) (draft goal : Location) (text : String) : FileTree :=
  (FileTree.mk ((drafted made draft text).nodes.erase draft)).put goal (.file text.toUTF8)

theorem drafted_node? {made : FileTree} {draft : Location} (text : String)
    (free : made.node? draft ≠ some .directory) :
    (drafted made draft text).node? draft = some (.file text.toUTF8) :=
  node?_put_self made _ (ne_top_of_not_directory free)

/-- A replacement succeeds when the directories can be made and a file may stand both where the
draft goes and, once it is there, at the goal. -/
theorem replace_ok :
    replace files path text = (after, .ok ()) ↔ ∃ made draft goal,
      files.makeParents path = (made, .ok ()) ∧ made.target (draftPath path) = .ok draft ∧
        (drafted made draft text).target path = .ok goal ∧
        after = published made draft goal text := by
  unfold replace
  constructor
  · intro replaced
    split at replaced
    case h_1 => cases replaced
    case h_2 made parents =>
      split at replaced
      case h_1 => cases replaced
      case h_2 draftedTree wrote =>
        obtain ⟨draft, free, rfl⟩ := write_ok.mp wrote
        split at replaced
        case h_1 => cases replaced
        case h_2 tree renamed =>
          obtain ⟨led, unoccupied, -⟩ := target_ok.mp free
          obtain ⟨location, content, goal, found, shown, goalFree, rfl⟩ := rename_ok.mp renamed
          have still := locate_kept (put_file_same text.toUTF8 unoccupied).1 led
          cases still.symm.trans found
          rw [node?_put_self made _ (ne_top_of_not_directory unoccupied), Option.some.injEq,
            Node.file.injEq] at shown
          subst shown
          cases replaced
          exact ⟨made, draft, goal, parents, free, goalFree, rfl⟩
  · rintro ⟨made, draft, goal, parents, free, goalFree, rfl⟩
    obtain ⟨led, unoccupied, -⟩ := target_ok.mp free
    have wrote : made.write (draftPath path) text.toUTF8 = .ok (drafted made draft text) :=
      write_ok.mpr ⟨draft, free, rfl⟩
    have renamed : (drafted made draft text).rename (draftPath path) path =
        .ok (published made draft goal text) :=
      rename_ok.mpr ⟨draft, _, goal, locate_kept (put_file_same text.toUTF8 unoccupied).1 led,
        drafted_node? text unoccupied, goalFree, rfl⟩
    simp only [parents, wrote, renamed]

/-- A replacement that fails gets to the draft at most. -/
theorem replace_error {err : FileError}
    (failed : replace files path text = (after, .error err)) :
    after = (files.makeParents path).1 ∨ ∃ draft,
      (files.makeParents path).1.target (draftPath path) = .ok draft ∧
        after = drafted (files.makeParents path).1 draft text := by
  unfold replace at failed
  split at failed
  case h_1 parents =>
    cases failed
    exact .inl (by rw [parents])
  case h_2 made parents =>
    rw [parents]
    split at failed
    case h_1 =>
      cases failed
      exact .inl rfl
    case h_2 wrote =>
      obtain ⟨draft, free, rfl⟩ := write_ok.mp wrote
      split at failed
      case h_1 =>
        cases failed
        exact .inr ⟨draft, free, rfl⟩
      case h_2 => cases failed

theorem published_same {made : FileTree} {draft goal : Location}
    (free : made.node? draft ≠ some .directory)
    (goalFree : (drafted made draft text).node? goal ≠ some .directory) :
    SameDirectories (drafted made draft text) (published made draft goal text) := by
  have drafted_same : SameDirectories made (drafted made draft text) := put_file_same _ free
  have erased := erase_same (drafted_same.unoccupied free)
  exact erased.trans (put_file_same _ (erased.unoccupied goalFree))

theorem published_node? {made : FileTree} {draft goal shown : Location} (text : String)
    (notDraft : draft ≠ shown) (notGoal : goal ≠ shown) :
    (published made draft goal text).node? shown = made.node? shown := by
  rw [published, node?_put_of_ne _ _ notGoal]
  by_cases top : shown = []
  · rw [top, node?_top, node?_top]
  · rw [node?_erase _ _ _ top, if_neg notDraft, drafted, node?_put_of_ne _ _ notDraft]

/-- The draft has been moved away. -/
theorem published_draft {made : FileTree} {draft goal : Location} (text : String)
    (below : draft ≠ []) (ne : goal ≠ draft) :
    (published made draft goal text).node? draft = none := by
  rw [published, node?_put_of_ne _ _ ne, node?_erase _ _ _ below, if_pos rfl]

/-- The document is what was put in its place. -/
theorem readText_replace (replaced : replace files path text = (after, .ok ())) :
    after.readText path = .ok text := by
  obtain ⟨made, draft, goal, -, free, goalFree, rfl⟩ := replace_ok.mp replaced
  obtain ⟨-, unoccupied, -⟩ := target_ok.mp free
  obtain ⟨led, goalUnoccupied, named⟩ := target_ok.mp goalFree
  refine readText_file (locate_kept (published_same unoccupied goalUnoccupied).1 led) ?_ named
  exact node?_put_self _ _ (ne_top_of_not_directory goalUnoccupied)

/-- Where a document was replaced once, it can be replaced again. The directories are there by then
and nothing is left of the draft, so no other file takes part in it. -/
theorem replace_again (replaced : replace files path text = (after, .ok ())) (other : String) :
    ∃ again, replace after path other = (again, .ok ()) ∧ after.ApartInFile again path := by
  obtain ⟨made, draft, goal, parents, free, goalFree, rfl⟩ := replace_ok.mp replaced
  obtain ⟨led, unoccupied, draftNamed⟩ := target_ok.mp free
  obtain ⟨goalLed, goalUnoccupied, named⟩ := target_ok.mp goalFree
  have moved := published_same unoccupied goalUnoccupied
  have same : SameDirectories made (published made draft goal text) :=
    (put_file_same _ unoccupied).trans moved
  have redrafted : SameDirectories (published made draft goal text)
      (drafted (published made draft goal text) draft other) :=
    put_file_same _ (same.unoccupied unoccupied)
  have both := moved.trans redrafted
  have place : (published made draft goal text).locate path = .ok goal :=
    locate_kept moved.1 goalLed
  refine ⟨_, replace_ok.mpr
    ⟨_, draft, goal, makeParents_again parents same.1, ?draft, ?goal, rfl⟩, ?elsewhere, ?file⟩
  case draft =>
    exact target_ok.mpr ⟨locate_kept same.1 led, same.unoccupied unoccupied, draftNamed⟩
  case goal =>
    exact target_ok.mpr ⟨locate_kept both.1 goalLed, both.unoccupied goalUnoccupied, named⟩
  case elsewhere =>
    intro location notPlace
    have notGoal : goal ≠ location := by
      rintro rfl
      exact notPlace place
    by_cases isDraft : draft = location
    · subst isDraft
      have below := ne_top_of_not_directory unoccupied
      rw [published_draft other below notGoal, published_draft text below notGoal]
    · exact published_node? other isDraft notGoal
  case file =>
    intro location there
    obtain rfl : goal = location := Except.ok.inj (place.symm.trans there)
    have free := both.unoccupied goalUnoccupied
    have republished := published_same (same.unoccupied unoccupied) free
    exact ⟨moved.unoccupied goalUnoccupied, republished.unoccupied free⟩

end Archive

end ShaderIdentity
