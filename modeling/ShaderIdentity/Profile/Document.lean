import ShaderIdentity.Profile.Settings

/-! Documents that hold the settings of many shaders. People edit them, so an entry that cannot be
used is reported and the others still count. -/
namespace ShaderIdentity.Document

open Json

/-- The newest version that is understood, and the one that is written. -/
def version : Nat := 1

inductive Section where
  | version
  | shaders (stage : Stage)
  deriving DecidableEq, Repr

def Section.name : Section → String
  | .version => "Version"
  | .shaders .vertex => "VertexShaders"
  | .shaders .pixel => "PixelShaders"

/-- Why a document cannot be used at all. -/
inductive Rejection where
  | malformed (fault : Fault) (position : Position)
  | unsupportedVersion (found : Nat)
  | notAnObject
  deriving DecidableEq, Repr

def Rejection.message : Rejection → String
  | .malformed fault position =>
    s!"profile parse error at line {position.line}, column {position.column}: " ++
      s!"{fault.message} at line {position.line} column {position.column}"
  | .unsupportedVersion found =>
    s!"unsupported profile version {found} (supported up to {version})"
  | .notAnObject => "profile document root must be an object"

inductive Reason where
  | notUnsigned (found : Value)
  | notObject (found : Value)
  | badKey (err : Fingerprint.ParseError)
  | badSettings (cause : Mismatch)

def Reason.message : Reason → String
  | .notUnsigned found => s!"expected an unsigned integer, found {found.compact}"
  | .notObject found => s!"expected an object, found {found.compact}"
  | .badKey err => s!"invalid fingerprint: {err.message}"
  | .badSettings cause => cause.message

/-- A part of a document that is left out. Without a key it is the whole section. -/
structure Issue where
  place : Section
  key : Option String
  reason : Reason

structure Contents where
  version : Nat
  entries : PerStage (List (Fingerprint × Settings))
  issues : List Issue

def Contents.size (contents : Contents) : Nat :=
  contents.entries.vertex.length + contents.entries.pixel.length

/-- What a section or an entry comes to: usable parts and issues, each in order. -/
structure Reading where
  entries : List (Fingerprint × Settings)
  issues : List Issue

def Reading.append (a b : Reading) : Reading :=
  ⟨a.entries ++ b.entries, a.issues ++ b.issues⟩

def readEntry (stage : Stage) (key : String) (value : Value) : Reading :=
  let issue (reason : Reason) : Reading := ⟨[], [⟨.shaders stage, some key, reason⟩]⟩
  match Fingerprint.parse key with
  | .error err => issue (.badKey err)
  | .ok fingerprint =>
    match Settings.decoder.ofValue value with
    | .ok settings => ⟨[(fingerprint, settings)], []⟩
    | .error cause => issue (.badSettings cause)

/-- A section may be missing or null. -/
def readSection (stage : Stage) : Option Value → Reading
  | none => ⟨[], []⟩
  | some .null => ⟨[], []⟩
  | some (.object entries) =>
    entries.foldr (fun (key, value) rest => (readEntry stage key value).append rest) ⟨[], []⟩
  | some found => ⟨[], [⟨.shaders stage, none, .notObject found⟩]⟩

/-- The version of a document without a readable version is the current one. -/
def readVersion : Option Value → Except Rejection (Nat × List Issue)
  | none => .ok (version, [])
  | some value =>
    let issue := (version, [⟨.version, none, .notUnsigned value⟩])
    match value with
    | .number (.integer found) =>
      if found < 0 then .ok issue
      else if version < found then .error (.unsupportedVersion found.toNat)
      else .ok (found.toNat, [])
    | _ => .ok issue

def ofValue : Value → Except Rejection Contents
  | .object members => do
    let look (place : Section) := members.lookup place.name
    let (version, issues) ← readVersion (look .version)
    let vertex := readSection .vertex (look (.shaders .vertex))
    let pixel := readSection .pixel (look (.shaders .pixel))
    return ⟨version, ⟨vertex.entries, pixel.entries⟩, issues ++ vertex.issues ++ pixel.issues⟩
  | _ => .error .notAnObject

def decode (text : String) : Except Rejection Contents :=
  match Value.parse text with
  | .ok value => ofValue value
  | .error failure => .error (.malformed failure.fault (failure.position text.toList))

def sectionValue (profiles : ProfileMap) : Value :=
  .object (profiles.toList.map fun (fingerprint, profile) =>
    (fingerprint.text, (Settings.ofProfile profile).toValue))

def toValue (profiles : PerStage ProfileMap) : Value :=
  .object [
    (Section.version.name, .number (.integer version)),
    ((Section.shaders .vertex).name, sectionValue profiles.vertex),
    ((Section.shaders .pixel).name, sectionValue profiles.pixel)]

/-- The document of all profiles, in the order of their fingerprints. -/
def encode (profiles : PerStage ProfileMap) : String :=
  (toValue profiles).pretty

/-- Puts the entries into the profiles, one after the other. -/
def merge (profiles : PerStage ProfileMap) (contents : Contents) : PerStage ProfileMap :=
  .ofStage fun stage =>
    (contents.entries.get stage).foldl
      (fun merged (fingerprint, settings) => merged.insert fingerprint settings.toProfile)
      (profiles.get stage)

end ShaderIdentity.Document
