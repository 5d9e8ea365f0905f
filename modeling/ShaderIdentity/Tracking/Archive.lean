import ShaderIdentity.Profile.Listing
import ShaderIdentity.Tracking.Registry

/-! Profiles loaded from a document in a file tree and saved to it. -/
namespace ShaderIdentity

structure Archive where
  path : String
  /-- The directory of the listings that are looked at after loading. -/
  listings : Option String
  deriving DecidableEq, Repr

inductive LoadReport where
  | missing
  | loaded (entries skipped listings : Nat)
  deriving DecidableEq, Repr

namespace Registry

/-- Every profile watches what its listing mentions too. Counts the listings that were read. -/
def scan (registry : Registry) (files : FileTree) (directory : String) : Outcome Registry Nat :=
  let profiles := PerStage.ofStage fun stage =>
    (registry.profiles.get stage).map (Listing.extend files directory stage)
  let texts := Stage.all.flatMap fun stage =>
    (registry.profiles.get stage).keys.map (Listing.text? files directory stage)
  let unreadable : Except FileError String → Option Event
    | .ok _ | .error .notFound => none
    | .error err => some (.listingUnreadable err)
  ⟨texts.countP (·.isOk), { registry with profiles }, texts.filterMap unreadable⟩

end Registry

namespace Archive

/-- Puts the entries of the document into the registry. Profiles without an entry stay as they
are, and when the document cannot be used everything does. -/
def load (archive : Archive) (files : FileTree) (registry : Registry) :
    Outcome Registry (Except ArchiveError LoadReport) :=
  match files.readText archive.path with
  | .error .notFound => ⟨.ok .missing, registry, [.documentMissing]⟩
  | .error err => ⟨.error (.file err), registry, []⟩
  | .ok text =>
    match Document.decode text with
    | .error rejection => ⟨.error (.document rejection), registry, []⟩
    | .ok contents =>
      let merged := { registry with profiles := Document.merge registry.profiles contents }
      let scanned := match archive.listings with
        | some directory => merged.scan files directory
        | none => ⟨0, merged, []⟩
      let entries := contents.size
      let skipped := contents.issues.length
      ⟨.ok (.loaded entries skipped scanned.answer), scanned.state,
        contents.issues.map .entrySkipped ++ scanned.events ++
          [.loaded entries skipped scanned.answer]⟩

/-- The file that is written first and then takes the place of the document. -/
def draftPath (path : String) : String :=
  path ++ ".tmp"

/-- Replaces the document, making the directories above it. The new text is complete before it
takes the place of the old one. -/
def replace (files : FileTree) (path text : String) : FileTree × Except FileError Unit :=
  match files.makeParents path with
  | (files, .error err) => (files, .error err)
  | (files, .ok ()) =>
    match files.write (draftPath path) text.toUTF8 with
    | .error err => (files, .error err)
    | .ok drafted =>
      match drafted.rename (draftPath path) path with
      | .error err => (drafted, .error err)
      | .ok replaced => (replaced, .ok ())

def save (archive : Archive) (files : FileTree) (registry : Registry) :
    Outcome FileTree (Except ArchiveError Unit) :=
  match replace files archive.path (Document.encode registry.profiles) with
  | (files, .ok ()) => ⟨.ok (), files, [.saved]⟩
  | (files, .error err) => ⟨.error (.file err), files, []⟩

end Archive

end ShaderIdentity
