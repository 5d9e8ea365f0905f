import ShaderIdentity.Json.Decoder
import ShaderIdentity.Json.Printer
import ShaderIdentity.Files.Path
import ShaderIdentity.Shader.TokenStream
import ShaderIdentity.Tracking.Archive

/-! What a host can choose. A text gives only what differs from the defaults. -/
namespace ShaderIdentity

structure Configuration where
  profilePath : String
  listingDirectory : String
  scanListings : Bool
  bytecodeLimit : UInt64
  deriving DecidableEq, Repr

namespace Configuration

/-- The defaults of a program that lives in the directory. -/
def inDirectory (directory : String) : Configuration :=
  ⟨Path.join directory "ShaderProfil.json", Path.join directory "DumpShader", true,
    .ofNat defaultBytecodeLimit⟩

def archive (configuration : Configuration) : Archive :=
  ⟨configuration.profilePath,
    if configuration.scanListings then some configuration.listingDirectory else none⟩

open Json Json.Decoder

def limit : Decoder UInt64 :=
  (whole UInt64.size "usize").map UInt64.ofNat

def fields : List (RecordField Configuration) := [
  field "profilePath" (string "path string") fun config profilePath => { config with profilePath },
  field "disassemblyDir" (string "path string") fun config directory =>
    { config with listingDirectory := directory },
  field "scanDisassembly" boolean fun config scan => { config with scanListings := scan },
  field "maxBytecodeBytes" limit fun config bytes => { config with bytecodeLimit := bytes }]

def decoder (defaults : Configuration) : Decoder Configuration :=
  record "struct TrackerConfig" fields defaults

def toValue (configuration : Configuration) : Value :=
  .object [
    ("profilePath", .string configuration.profilePath),
    ("disassemblyDir", .string configuration.listingDirectory),
    ("scanDisassembly", .boolean configuration.scanListings),
    ("maxBytecodeBytes", .number (.integer configuration.bytecodeLimit.toNat))]

end Configuration

end ShaderIdentity
