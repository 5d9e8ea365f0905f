import ShaderIdentity.Proofs.Files.Descent
import ShaderIdentity.Proofs.Tracking.Reopening

/-! Saving replaces the document or leaves it alone. The draft is where a failure may leave something
behind, and directories may have been made for the document; nothing else is touched. -/
namespace ShaderIdentity

namespace Archive

open FileTree

variable {files made after : FileTree} {path text : String} {err : FileError}

/-! ## Where the draft lies -/

theorem draft_names (path : String) : ∃ front last,
    Path.names path = front ++ (if Path.isIdle last then [] else [String.ofList last]) ∧
      Path.names (draftPath path) = front ++ [String.ofList (last ++ ['.', 't', 'm', 'p'])] := by
  have plain : '/' ∉ ".tmp".toList := by decide
  refine Path.names_append path plain fun part => ?_
  cases part <;> simp [Path.isIdle]

/-- The draft lies beside the document, or below it when the path does not end in a name. -/
theorem draft_not_above (path : String) :
    ¬ Path.names (draftPath path) <+: Path.names path := by
  -- The draft has as many names as the document at least, and its last one is longer.
  obtain ⟨front, last, place, draft⟩ := draft_names path
  rw [place, draft, List.prefix_append_right_inj]
  split
  case isTrue => simp
  case isFalse =>
    intro same
    have same := List.prefix_iff_eq_take.mp same
    simp at same

theorem draft_ne (path : String) : Path.names (draftPath path) ≠ Path.names path :=
  fun same => draft_not_above path (same ▸ List.prefix_rfl)

theorem draft_down (down : ".." ∉ Path.names path) : ".." ∉ Path.names (draftPath path) := by
  obtain ⟨front, last, place, draft⟩ := draft_names path
  rw [place, List.mem_append, not_or] at down
  rw [draft, List.mem_append, not_or]
  refine ⟨down.1, fun mem => ?_⟩
  have whole : ['.', '.'] = last ++ ['.', 't', 'm', 'p'] :=
    String.ofList_inj.mp (List.mem_singleton.mp mem)
  have lengths := congrArg List.length whole
  simp only [List.length_append, List.length_cons, List.length_nil] at lengths
  omega

/-! ## What a replacement leaves -/

/-- The document holds the new text. Nothing of the draft is left, and apart from directories above
the document nothing else has changed. -/
structure Replaced (files after : FileTree) (path text : String) : Prop where
  document : after.readText path = .ok text
  draft : after.node? (Path.names (draftPath path)) = none
  other : ∀ location, location ≠ Path.names path → location ≠ Path.names (draftPath path) →
    files.KeptOrMade after (Path.names path) location

/-- Whatever was at the document's place is still there. Where the draft belongs there may be a file
with the new text if there was no directory. Apart from directories above the document nothing else
has changed. -/
structure Spared (files after : FileTree) (path text : String) : Prop where
  place : after.node? (Path.names path) = files.node? (Path.names path)
  document : ∀ old, files.readText path = .ok old → after.readText path = .ok old
  draft : after.node? (Path.names (draftPath path)) = files.node? (Path.names (draftPath path)) ∨
    files.node? (Path.names (draftPath path)) ≠ some .directory ∧
      after.node? (Path.names (draftPath path)) = some (.file text.toUTF8)
  other : ∀ location, location ≠ Path.names (draftPath path) →
    files.KeptOrMade after (Path.names path) location

theorem draft_located (down : ".." ∉ Path.names path) {draft : Location}
    (free : made.target (draftPath path) = .ok draft) :
    draft = Path.names (draftPath path) ∧ made.node? draft ≠ some .directory := by
  obtain ⟨led, unoccupied, -⟩ := target_ok.mp free
  exact ⟨locate_down (draft_down down) led, unoccupied⟩

theorem replaced_of_replace (down : ".." ∉ Path.names path)
    (done : replace files path text = (after, .ok ())) : Replaced files after path text := by
  obtain ⟨made, draft, goal, parents, free, goalFree, same⟩ := replace_ok.mp done
  obtain ⟨rfl, unoccupied⟩ := draft_located down free
  obtain ⟨led, -, -⟩ := target_ok.mp goalFree
  obtain rfl := locate_down down led
  constructor
  case document => exact readText_replace done
  case draft =>
    rw [same]
    exact published_draft text (ne_top_of_not_directory unoccupied) (draft_ne path).symm
  case other =>
    intro location notPlace notDraft
    have kept := files.makeParents_keptOrMade down location
    rw [parents] at kept
    rw [same]
    exact kept.of_same (published_node? text notDraft.symm notPlace.symm)

/-- What is left when only directories were made, or the draft was written after that. -/
theorem spared_of_same (down : ".." ∉ Path.names path)
    (directories : DirectoriesKept (files.makeParents path).1 after)
    (draft : after.node? (Path.names (draftPath path)) =
        (files.makeParents path).1.node? (Path.names (draftPath path)) ∨
      (files.makeParents path).1.node? (Path.names (draftPath path)) ≠ some .directory ∧
        after.node? (Path.names (draftPath path)) = some (.file text.toUTF8))
    (other : ∀ location, location ≠ Path.names (draftPath path) →
      after.node? location = (files.makeParents path).1.node? location) :
    Spared files after path text := by
  have kept : ∀ location, location ≠ Path.names (draftPath path) →
      files.KeptOrMade after (Path.names path) location := fun location notDraft =>
    (files.makeParents_keptOrMade down location).of_same (other location notDraft)
  have place := (kept _ (draft_ne path).symm).kept fun above => above.2 rfl
  have draftKept := (files.makeParents_keptOrMade down (Path.names (draftPath path))).kept
    fun above => draft_not_above path above.1
  constructor
  case place => exact place
  case document =>
    intro old
    apply readText_kept ((files.makeParents_kept path).trans directories)
    intro location led
    rw [locate_down down led]
    exact place
  case draft =>
    rw [← draftKept]
    exact draft
  case other => exact kept

theorem spared_of_replace (down : ".." ∉ Path.names path)
    (failed : replace files path text = (after, .error err)) : Spared files after path text := by
  obtain same | ⟨draft, free, same⟩ := replace_error failed
  · rw [same]
    exact spared_of_same down (fun _ was => was) (.inl rfl) fun _ _ => rfl
  · obtain ⟨rfl, unoccupied⟩ := draft_located down free
    rw [same]
    refine spared_of_same down (put_file_same _ unoccupied).1 (.inr ⟨unoccupied, ?_⟩) ?_
    · exact drafted_node? text unoccupied
    · exact fun location notDraft => node?_put_of_ne _ _ notDraft.symm

/-- Saving to a path that only leads down either replaces the document or spares what is in its
place. Neither has to do with the profiles, which the tracker keeps as they are. -/
theorem save_all_or_nothing (archive : Archive) (down : ".." ∉ Path.names archive.path)
    (files : FileTree) (registry : Registry) :
    let saved := archive.save files registry
    let text := Document.encode registry.profiles
    (saved.answer = .ok () ∧ Replaced files saved.state archive.path text ∨
      ∃ err, saved.answer = .error (.file err) ∧ Spared files saved.state archive.path text) ∧
    ∀ tracker : Tracker, tracker.act (.call (.save files)) = tracker := by
  intro saved text
  refine ⟨?_, fun _ => rfl⟩
  generalize done : replace files archive.path text = result
  obtain ⟨after, answer⟩ := result
  cases answer with
  | ok =>
    have succeeds : saved = ⟨.ok (), after, [.saved]⟩ := save_of_replace done
    rw [succeeds]
    exact .inl ⟨rfl, replaced_of_replace down done⟩
  | error err =>
    have fails : saved = ⟨.error (.file err), after, []⟩ := by
      simp only [saved, save]
      rw [done]
    rw [fails]
    exact .inr ⟨err, rfl, spared_of_replace down done⟩

/-- There is a document already and a draft that was left behind; then there is a directory in the
document's place, and the draft cannot take it. -/
theorem save_replaces_or_spares :
    let archive : Archive := ⟨"a/p", none⟩
    let above := FileTree.empty.put ["a"] .directory
    let held := (above.put ["a", "p"] (.file "old".toUTF8)).put ["a", "p.tmp"] (.file ⟨#[]⟩)
    let blocked := above.put ["a", "p"] .directory
    let text := Document.encode (Registry.empty 4096).profiles
    ".." ∉ Path.names archive.path ∧
      Replaced held (archive.save held (.empty 4096)).state archive.path text ∧
      Spared blocked (archive.save blocked (.empty 4096)).state archive.path text := by
  intro archive above held blocked text
  have down : ".." ∉ Path.names archive.path := by decide
  have saves : (archive.save held (.empty 4096)).answer = .ok () := by decide +kernel
  have fails : (archive.save blocked (.empty 4096)).answer = .error (.file .isDirectory) := by
    decide +kernel
  have goesWell := (save_all_or_nothing archive down held (.empty 4096)).1
  have goesWrong := (save_all_or_nothing archive down blocked (.empty 4096)).1
  refine ⟨down, (goesWell.resolve_right ?held).2, ?blocked⟩
  case held =>
    rintro ⟨err, failed, -⟩
    rw [saves] at failed
    cases failed
  case blocked =>
    obtain ⟨err, -, spared⟩ := goesWrong.resolve_left fun saved => by
      rw [fails] at saved
      cases saved.1
    exact spared

end Archive

end ShaderIdentity
