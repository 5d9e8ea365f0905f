import ShaderIdentity.Proofs.Profile.ListingPlaces
import ShaderIdentity.Proofs.Tracking.Effects
import ShaderIdentity.Proofs.Tracking.Replacement

/-! What a tracker that was closed is when it is opened again: its profiles, as far as they are
written, and nothing else. Listings are looked at on the way, which settles after one round. -/
namespace ShaderIdentity

namespace Archive

variable {archive : Archive} {files other : FileTree} {registry : Registry}

/-! ## Profiles that were written -/

/-- The profile after it was written and read, with its listing looked at. -/
def reloaded (archive : Archive) (files : FileTree) (stage : Stage) (fingerprint : Fingerprint)
    (profile : Profile) : Profile :=
  archive.withListing files stage fingerprint (Settings.ofProfile profile).toProfile

/-- What is left of a profile that was written and read. -/
structure Reloaded (archive : Archive) (files : FileTree) (stage : Stage)
    (fingerprint : Fingerprint) (before after : Profile) : Prop where
  activated : after.activated = before.activated
  flags : after.flags = before.flags
  watched : archive.WatchesAlso files stage fingerprint before.watched after
  bindsWorldMatrix : after.bindsWorldMatrix = false

theorem reloaded_spec (archive : Archive) (files : FileTree) (stage : Stage)
    (fingerprint : Fingerprint) (profile : Profile) :
    Reloaded archive files stage fingerprint profile
      (archive.reloaded files stage fingerprint profile) := by
  have overwritten :=
    archive.overwritten_withListing files stage fingerprint (Settings.ofProfile profile)
  exact ⟨overwritten.activated, congrArg Flags.mk overwritten.flags, overwritten.watched,
    overwritten.bindsWorldMatrix⟩

/-- A profile that was there is there again. -/
theorem some_of_reloaded {stage : Stage} {fingerprint : Fingerprint} {before : Profile}
    {after : Option Profile}
    (same : Option.Rel (archive.Reloaded files stage fingerprint) (some before) after) :
    ∃ profile, after = some profile ∧ archive.Reloaded files stage fingerprint before profile := by
  cases same with
  | some reloaded => exact ⟨_, rfl, reloaded⟩

theorem reloaded_congr {stage : Stage} {fingerprint : Fingerprint}
    (same : archive.listing? files stage fingerprint = archive.listing? other stage fingerprint) :
    archive.reloaded files stage fingerprint = archive.reloaded other stage fingerprint := by
  funext profile
  rw [reloaded, reloaded, withListing, withListing, same]

theorem reloaded_twice (archive : Archive) (files : FileTree) (stage : Stage)
    (fingerprint : Fingerprint) (profile : Profile) :
    archive.reloaded files stage fingerprint (archive.reloaded files stage fingerprint profile) =
      archive.reloaded files stage fingerprint profile := by
  unfold reloaded withListing
  cases archive.listing? files stage fingerprint with
  | none => rfl
  | some text =>
    exact (Settings.ofProfile profile).toProfile.watchAlso_twice stage
      (Listing.registers stage text)

/-! ## Documents that were saved -/

/-- The document of the registry has just been put in its place. -/
def Saved (archive : Archive) (registry : Registry) (files : FileTree) : Prop :=
  ∃ before, replace before archive.path (Document.encode registry.profiles) = (files, .ok ())

theorem saved_of_save (saves : (archive.save files registry).answer = .ok ()) :
    Saved archive registry (archive.save files registry).state := by
  unfold save at saves ⊢
  generalize done : replace files archive.path (Document.encode registry.profiles) = result
  obtain ⟨after, answer⟩ := result
  rw [done] at saves
  cases answer with
  | ok => exact ⟨files, done⟩
  | error err => cases saves

theorem save_of_replace {after : FileTree}
    (replaced : replace files archive.path (Document.encode registry.profiles) =
      (after, .ok ())) : archive.save files registry = ⟨.ok (), after, [.saved]⟩ := by
  rw [save, replaced]

/-- A document that was saved can be saved anew, and no other file takes part in it. -/
theorem Saved.save_again (saved : Saved archive registry files) (next : Registry) :
    (archive.save files next).answer = .ok () ∧
      files.ApartInFile (archive.save files next).state archive.path := by
  obtain ⟨before, replaced⟩ := saved
  obtain ⟨again, done, apart⟩ := replace_again replaced (Document.encode next.profiles)
  rw [save_of_replace done]
  exact ⟨rfl, apart⟩

theorem Saved.readText (saved : Saved archive registry files) :
    files.readText archive.path = .ok (Document.encode registry.profiles) := by
  obtain ⟨before, replaced⟩ := saved
  exact readText_replace replaced

theorem Saved.load_profile? (saved : Saved archive registry files) (limit : Nat) (stage : Stage)
    (fingerprint : Fingerprint) :
    (archive.load files (.empty limit)).state.profile? stage fingerprint =
      (registry.profile? stage fingerprint).map (archive.reloaded files stage fingerprint) := by
  have read := saved.readText
  have decoded := Document.decode_encode registry.profiles
  cases held : registry.profile? stage fingerprint with
  | some profile =>
    apply archive.load_entry (.empty limit) read decoded
    rw [PerStage.get_ofStage, Document.mem_entriesOf]
    exact congrArg (Option.map Settings.ofProfile) held
  | none =>
    rw [archive.load_other (.empty limit) read decoded ?_]
    · simp [Registry.profile?, Registry.empty]
    · intro settings
      rw [PerStage.get_ofStage, Document.mem_entriesOf]
      simp [show (registry.profiles.get stage)[fingerprint]? = none from held]

/-! ## Listings beside a document -/

/-- No listing stands in the place of the document. -/
def ListingsApart (archive : Archive) (files : FileTree) : Prop :=
  ∀ directory, archive.listings = some directory → ∀ stage fingerprint location,
    files.locate (Listing.path directory stage fingerprint) = .ok location →
      files.locate archive.path ≠ .ok location

/-- It is enough that the last name of the document is not one that a listing has. -/
theorem listingsApart_of_names {front : List String} {last : String}
    (names : Path.names archive.path = front ++ [last]) (down : last ≠ "..")
    (other : ∀ fingerprint : Fingerprint, last ≠ fingerprint.text ++ ".asm") :
    archive.ListingsApart files := by
  intro directory _ stage fingerprint location led there
  obtain ⟨top, -, below⟩ := Listing.located led
  have walked := FileTree.walk_of_locate there
  rw [names] at walked
  obtain ⟨above, -, final⟩ := FileTree.walk_append walked
  have here : location = above ++ [last] := FileTree.walk_down (by simpa using down.symm) final
  have ends := congrArg List.getLast? (here.symm.trans below)
  exact other fingerprint (by simpa [Listing.place] using ends)

theorem ListingsApart.kept (listings : archive.ListingsApart files)
    (apart : files.ApartInFile other archive.path) :
    archive.ListingsApart other ∧ ∀ stage fingerprint,
      archive.listing? other stage fingerprint = archive.listing? files stage fingerprint := by
  obtain ⟨-, back⟩ := apart.sameDirectories
  constructor
  · intro directory on stage fingerprint location led there
    exact listings directory on stage fingerprint location (FileTree.locate_kept back led)
      (FileTree.locate_kept back there)
  · intro stage fingerprint
    cases on : archive.listings with
    | none => rw [listing?_none on, listing?_none on]
    | some directory =>
      rw [listing?_some on, listing?_some on]
      exact apart.readText_toOption (listings directory on stage fingerprint)

end Archive

namespace Tracker

/-! ## Closing and opening -/

theorem save_answer (tracker : Tracker) (files : FileTree) :
    (tracker.save files).answer =
        (tracker.configuration.archive.save files tracker.registry).answer ∧
      (tracker.save files).state =
        (tracker.configuration.archive.save files tracker.registry).state := by
  unfold save
  cases answered : (tracker.configuration.archive.save files tracker.registry).answer with
  | ok => simp only [answered, and_self]
  | error err => simp only [answered, and_self]

theorem saved_of_closes {tracker : Tracker} {files : FileTree}
    (closes : (tracker.save files).answer = .ok ()) :
    tracker.configuration.archive.Saved tracker.registry (tracker.save files).state := by
  obtain ⟨answer, state⟩ := tracker.save_answer files
  rw [state]
  exact Archive.saved_of_save (answer.symm.trans closes)

theorem saved_after {configuration : Configuration} {actions : List Action} {files : FileTree}
    (closes : (((new configuration).after actions).save files).answer = .ok ()) :
    configuration.archive.Saved ((new configuration).after actions).registry
      (((new configuration).after actions).save files).state := by
  have same : ((new configuration).after actions).configuration = configuration :=
    after_configuration _ actions
  have saved := saved_of_closes closes
  rwa [same] at saved

/-- A tracker that is opened differs from a new one in its registry alone. -/
theorem openWith_state (configuration : Configuration) (files : FileTree) :
    (openWith configuration files).state = { new configuration with
      registry := (configuration.archive.load files
        (.empty configuration.bytecodeLimit.toNat)).state } := by
  rw [openWith, load_state]
  rfl

/-- Nothing but profiles is there: no handle stands for anything, nothing is or was bound, and no
constants are kept. -/
structure Idle (tracker : Tracker) : Prop where
  unmapped : ∀ stage handle, tracker.registry.fingerprint? stage handle = none
  unbound : ∀ stage, tracker.bindings.current.get stage = none
  unseen : ∀ fingerprint stage, tracker.bindings.wasBound fingerprint stage = false
  beforeUi : tracker.bindings.preUi = false
  unheld : ∀ kind fingerprint, tracker.constants.get? kind fingerprint = none

theorem openWith_idle (configuration : Configuration) (files : FileTree) :
    Idle (openWith configuration files).state := by
  rw [openWith_state]
  constructor
  case unmapped =>
    intro stage handle
    rw [Registry.fingerprint?, (Archive.load_handles _ _).1]
    simp [Registry.empty]
  case unbound => exact fun stage => PerStage.get_both none stage
  case unseen =>
    intro fingerprint stage
    simp [new, Bindings.empty, Bindings.wasBound]
  case beforeUi => rfl
  case unheld =>
    intro kind fingerprint
    cases kind <;> rfl

theorem resolve?_register {tracker : Tracker} {stage : Stage} {bytecode : List UInt8}
    {fingerprint : Fingerprint} {profile : Profile}
    (accepted : Fingerprint.ofBytes bytecode tracker.registry.bytecodeLimit = .ok fingerprint)
    (held : tracker.registry.profile? stage fingerprint = some profile) (handle : Handle) :
    (tracker.register stage handle bytecode).answer = .ok fingerprint ∧
      (tracker.register stage handle bytecode).state.registry.resolve? stage handle =
        some profile := by
  simp only [register, Registry.register, accepted, true_and]
  rw [Registry.resolve?, Registry.fingerprint?_assign, if_pos ⟨rfl, rfl⟩]
  refine (Registry.profile?_assign ..).trans ?_
  rw [if_pos ⟨rfl, rfl⟩, held, Option.getD_some]

/-! ## Opened and closed again and again -/

section
variable (configuration : Configuration) (files : FileTree)

/-- A tracker is opened with the files and closed again at once. -/
def openAndClose : Outcome FileTree (Except ArchiveError Unit) :=
  (openWith configuration files).state.save files

/-- The files after so many rounds. -/
def rounds : Nat → FileTree
  | 0 => files
  | n + 1 => (openAndClose configuration (rounds n)).state

variable {configuration files} {registry : Registry}

theorem openWith_profile? (saved : configuration.archive.Saved registry files) (stage : Stage)
    (fingerprint : Fingerprint) :
    (openWith configuration files).state.registry.profile? stage fingerprint =
      (registry.profile? stage fingerprint).map
        (configuration.archive.reloaded files stage fingerprint) := by
  rw [openWith_state]
  exact saved.load_profile? _ stage fingerprint

theorem openAndClose_saved (saved : configuration.archive.Saved registry files) :
    (openAndClose configuration files).answer = .ok () ∧
      configuration.archive.Saved (openWith configuration files).state.registry
        (openAndClose configuration files).state ∧
      files.ApartInFile (openAndClose configuration files).state configuration.archive.path := by
  have same : (openWith configuration files).state.configuration = configuration := by
    rw [openWith_state]
    rfl
  obtain ⟨answer, state⟩ := save_answer (openWith configuration files).state files
  rw [same] at answer state
  obtain ⟨succeeds, apart⟩ := saved.save_again (openWith configuration files).state.registry
  have closes : (openAndClose configuration files).answer = .ok () := answer.trans succeeds
  have done := saved_of_closes closes
  rw [same] at done
  refine ⟨closes, done, ?_⟩
  rw [openAndClose, state]
  exact apart

/-- No round changes a listing, unless one stands in the place of the document. -/
theorem rounds_listing? (saved : configuration.archive.Saved registry files)
    (listings : configuration.archive.ListingsApart files) (n : Nat) :
    ∃ written : Registry, configuration.archive.Saved written (rounds configuration files n) ∧
      configuration.archive.ListingsApart (rounds configuration files n) ∧
      ∀ stage fingerprint,
        configuration.archive.listing? (rounds configuration files n) stage fingerprint =
          configuration.archive.listing? files stage fingerprint := by
  induction n with
  | zero => exact ⟨registry, saved, listings, fun _ _ => rfl⟩
  | succ n ih =>
    obtain ⟨written, savedLast, listings, unchanged⟩ := ih
    obtain ⟨-, savedNow, apart⟩ := openAndClose_saved savedLast
    obtain ⟨listings, unchangedNow⟩ := listings.kept apart
    refine ⟨_, savedNow, listings, fun stage fingerprint => ?_⟩
    exact (unchangedNow stage fingerprint).trans (unchanged stage fingerprint)

/-- After the first round the registry that is saved is always the same, up to what is written. -/
theorem rounds_saved (saved : configuration.archive.Saved registry files)
    (unchanged : ∀ n stage fingerprint,
      configuration.archive.listing? (rounds configuration files n) stage fingerprint =
        configuration.archive.listing? files stage fingerprint) (n : Nat) :
    ∃ written : Registry,
      configuration.archive.Saved written (rounds configuration files (n + 1)) ∧
      ∀ stage fingerprint, written.profile? stage fingerprint =
        (registry.profile? stage fingerprint).map
          (configuration.archive.reloaded files stage fingerprint) := by
  induction n with
  | zero => exact ⟨_, (openAndClose_saved saved).2.1, openWith_profile? saved⟩
  | succ n ih =>
    obtain ⟨written, again, shown⟩ := ih
    refine ⟨_, (openAndClose_saved again).2.1, fun stage fingerprint => ?_⟩
    rw [openWith_profile? again, shown, Option.map_map,
      Archive.reloaded_congr (unchanged (n + 1) stage fingerprint)]
    congr 1
    funext profile
    exact Archive.reloaded_twice _ _ _ _ profile

/-- Every round closes, and what it writes is the same in all of them. -/
theorem rounds_settled (saved : configuration.archive.Saved registry files)
    (unchanged : ∀ n stage fingerprint,
      configuration.archive.listing? (rounds configuration files n) stage fingerprint =
        configuration.archive.listing? files stage fingerprint) :
    (∀ n, (openAndClose configuration (rounds configuration files n)).answer = .ok ()) ∧
      ∃ text, ∀ n,
        (rounds configuration files (n + 1)).readText configuration.archive.path = .ok text := by
  have again := rounds_saved saved unchanged
  constructor
  · intro n
    cases n with
    | zero => exact (openAndClose_saved saved).1
    | succ n =>
      obtain ⟨written, done, -⟩ := again n
      exact (openAndClose_saved done).1
  · obtain ⟨first, -, shown⟩ := again 0
    refine ⟨Document.encode first.profiles, fun n => ?_⟩
    obtain ⟨written, done, alike⟩ := again n
    have settled : Document.encode written.profiles = Document.encode first.profiles := by
      refine Document.encode_eq_iff.mpr fun stage fingerprint => ?_
      exact congrArg (Option.map Settings.ofProfile)
        ((alike stage fingerprint).trans (shown stage fingerprint).symm)
    rw [← settled]
    exact done.readText

end

/-- A tracker that could be closed is opened again with its profiles alone, as they were written
and with their listings looked at. Shaders find their profiles again, under whatever handles. From
the second closing on the document stays the same. -/
theorem reopened_after_close (configuration : Configuration) (actions : List Action)
    (files : FileTree)
    (closes : (((new configuration).after actions).save files).answer = .ok ()) :
    let closed := (new configuration).after actions
    let saved := (closed.save files).state
    let archive := configuration.archive
    let opened := (openWith configuration saved).state
    (∀ stage fingerprint, Option.Rel (archive.Reloaded saved stage fingerprint)
      (closed.registry.profile? stage fingerprint) (opened.registry.profile? stage fingerprint)) ∧
    Idle opened ∧
    (∀ stage handle bytecode fingerprint profile,
      Fingerprint.ofBytes bytecode configuration.bytecodeLimit.toNat = .ok fingerprint →
      opened.registry.profile? stage fingerprint = some profile →
      (opened.register stage handle bytecode).answer = .ok fingerprint ∧
      (opened.register stage handle bytecode).state.registry.resolve? stage handle =
        some profile) ∧
    ((∀ n stage fingerprint,
        archive.listing? (rounds configuration saved n) stage fingerprint =
          archive.listing? saved stage fingerprint) →
      (∀ n, (openAndClose configuration (rounds configuration saved n)).answer = .ok ()) ∧
      ∃ text, ∀ n, (rounds configuration saved (n + 1)).readText archive.path = .ok text) := by
  intro closed saved archive opened
  have held : archive.Saved closed.registry saved := saved_after closes
  refine ⟨fun stage fingerprint => ?_, openWith_idle configuration saved, ?_,
    rounds_settled held⟩
  · rw [openWith_profile? held]
    cases closed.registry.profile? stage fingerprint with
    | none => exact .none
    | some profile => exact .some (Archive.reloaded_spec archive saved stage fingerprint profile)
  · intro stage handle bytecode fingerprint profile accepted stored
    refine resolve?_register ?_ stored handle
    have limit : opened.registry.bytecodeLimit = configuration.bytecodeLimit.toNat := by
      rw [show opened = _ from openWith_state configuration saved]
      exact (Archive.load_handles _ _).2
    rwa [limit]

/-- A shader that was edited by hand and marked, with a listing that mentions a register besides. It
is found again by its bytecode. -/
theorem reopened_after_first_close :
    let configuration : Configuration := ⟨"p", "d", true, 4096⟩
    let shader : Fingerprint := ⟨1104801024⟩
    let actions : List Action := [.call (.assign .vertex ⟨1⟩ shader),
      .call (.edit .vertex shader ⟨some false, some ⟨3⟩, some (.ofList ([9] : List UInt32)),
        some (.ofList ([7] : List UInt32)), some true⟩)]
    let above := ((FileTree.empty.put ["d"] .directory).put ["d", "Vertex"] .directory).put
      ["d", "Vertex", "asm"] .directory
    let files := above.put ["d", "Vertex", "asm", "1104801024.asm"] (.file "gMatPower".toUTF8)
    let closed := (new configuration).after actions
    let saved := (closed.save files).state
    let opened := (openWith configuration saved).state
    (closed.save files).answer = .ok () ∧
    (∃ restored, opened.registry.profile? .vertex shader = some restored ∧
      restored.activated = false ∧ restored.flags = ⟨3⟩ ∧
      (∀ register, register ∈ restored.watched.vertex ↔ register = 9 ∨ register = 4) ∧
      (∀ register, register ∈ restored.watched.pixel ↔ register = 7) ∧
      restored.bindsWorldMatrix = false ∧
      (opened.register .vertex ⟨8⟩ [0xFF, 0xFF, 0, 0]).state.registry.resolve? .vertex ⟨8⟩ =
        some restored) ∧
    (∀ n stage fingerprint,
      configuration.archive.listing? (rounds configuration saved n) stage fingerprint =
        configuration.archive.listing? saved stage fingerprint) ∧
    ∃ text, ∀ n, (rounds configuration saved (n + 1)).readText "p" = .ok text := by
  -- What is closed, saved and opened is written out, so that it is matched and not run.
  intro configuration shader actions above files
  have closes : (((new configuration).after actions).save files).answer = .ok () := by
    decide +kernel
  have held : ((new configuration).after actions).registry.profile? .vertex shader = some
      ⟨false, ⟨3⟩, ⟨.ofList ([9] : List UInt32), .ofList ([7] : List UInt32)⟩, true⟩ := by
    decide +kernel
  have read : configuration.archive.listing?
      (((new configuration).after actions).save files).state .vertex shader =
        some "gMatPower" := by decide +kernel
  have mentioned : Listing.registers .vertex "gMatPower" = .ofList ([4] : List UInt32) := by
    decide +kernel
  have only (given register : UInt32) :
      register ∈ (.ofList [given] : RegisterSet) ↔ register = given := by
    simp only [Std.ExtTreeSet.mem_ofList, List.contains_cons, List.contains_nil, Bool.or_false,
      beq_iff_eq]
  have accepted : Fingerprint.ofBytes [0xFF, 0xFF, 0, 0] configuration.bytecodeLimit.toNat =
      .ok shader := by decide +kernel
  have names : Path.names configuration.archive.path = [] ++ ["p"] := by decide +kernel
  have listings : configuration.archive.ListingsApart
      (((new configuration).after actions).save files).state :=
    Archive.listingsApart_of_names names (by decide) fun shader => Listing.ne_file shader (by decide)
  have unchanged (n : Nat) := (rounds_listing? (saved_after closes) listings n).choose_spec.2.2
  obtain ⟨restores, -, registers, settles⟩ :=
    reopened_after_close configuration actions files closes
  have kept := restores .vertex shader
  rw [held] at kept
  obtain ⟨restored, shown, reloaded⟩ := Archive.some_of_reloaded kept
  have found := (registers .vertex ⟨8⟩ _ _ _ accepted shown).2
  refine ⟨closes, ⟨restored, shown, reloaded.activated, reloaded.flags, fun register => ?vertex,
    fun register => ?pixel, reloaded.bindsWorldMatrix, found⟩, unchanged, (settles unchanged).2⟩
  case vertex =>
    refine (reloaded.watched .vertex register).trans ?_
    simp only [PerStage.get, only, read, Option.some.injEq, exists_eq_left', mentioned, true_and]
  case pixel =>
    refine (reloaded.watched .pixel register).trans ?_
    simp only [PerStage.get, only, reduceCtorEq, false_and, or_false]

end Tracker

end ShaderIdentity
