import ShaderIdentity.Files.Tree
import ShaderIdentity.Profile.Basic

/-! Disassembly listings, which name the constants that a shader uses. -/
namespace ShaderIdentity.Listing

/-- The constants that matter, with the registers they are bound to. -/
def symbols : Stage → List (String × UInt32)
  | .vertex => [("gFadeColor", 2), ("gMaterialDiffuse", 170), ("gMaterialAlbedo", 171),
      ("gMatPower", 4), ("gAmbientColor", 1), ("gDepthView", 186)]
  | .pixel => [("gMaterialDiffuse", 170), ("gMaterialAlbedo", 171)]

/-- The lines of a text without their ends, a newline with or without a carriage return before it.
The last line need not have an end. -/
def lines : List Char → List (List Char)
  | [] => []
  | '\r' :: '\n' :: rest => [] :: lines rest
  | '\n' :: rest => [] :: lines rest
  | c :: rest =>
    match lines rest with
    | [] => [[c]]
    | line :: others => (c :: line) :: others

/-- Whether the symbol stands anywhere in the text. -/
def mentions (symbol : List Char) : List Char → Bool
  | [] => symbol.isEmpty
  | c :: rest => symbol.isPrefixOf (c :: rest) || mentions symbol rest

/-- The registers of the symbols that some line mentions. -/
def registers (stage : Stage) (text : String) : RegisterSet :=
  let mentioned := (lines text.toList).flatMap fun line =>
    (symbols stage).filter fun (symbol, _) => mentions symbol.toList line
  Std.ExtTreeSet.ofList (mentioned.map (·.2))

/-- The listing of a shader stands below a directory for its stage. -/
def path (directory : String) (stage : Stage) (fingerprint : Fingerprint) : String :=
  Path.join (Path.join (Path.join directory stage.name) "asm") (fingerprint.text ++ ".asm")

def text? (files : FileTree) (directory : String) (stage : Stage) (fingerprint : Fingerprint) :
    Except FileError String :=
  files.readText (path directory stage fingerprint)

/-- The shader watches what its listing mentions too, if the listing can be read. -/
def extend (files : FileTree) (directory : String) (stage : Stage) (fingerprint : Fingerprint)
    (profile : Profile) : Profile :=
  match text? files directory stage fingerprint with
  | .ok text => profile.watchAlso stage (registers stage text)
  | .error _ => profile

end ShaderIdentity.Listing
