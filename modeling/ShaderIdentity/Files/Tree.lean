import ShaderIdentity.Files.Path
import Std.Data.ExtTreeMap

/-! A tree of files as a value. What a program does to its files is a function from trees to
trees. -/
namespace ShaderIdentity

inductive FileError where
  | notFound
  | notDirectory
  | isDirectory
  | notText
  /-- A path or a name in it is too long, or a path holds a null character. -/
  | badPath
  deriving DecidableEq, Repr

/-- The names that lead from the top to a file or directory. The top itself has none. -/
abbrev Location := List String

inductive Node where
  | file (content : ByteArray)
  | directory

structure FileTree where
  nodes : Std.ExtTreeMap Location Node

namespace FileTree

/-- Only the top directory. -/
def empty : FileTree := ⟨∅⟩

def node? (tree : FileTree) (location : Location) : Option Node :=
  if location.isEmpty then some .directory else tree.nodes[location]?

def put (tree : FileTree) (location : Location) (node : Node) : FileTree :=
  ⟨tree.nodes.insert location node⟩

/-- One name on from a directory. Above the top is the top. -/
def child (here : Location) (name : String) : Location :=
  if name = ".." then here.dropLast else here ++ [name]

/-- Where the names lead from `here`. Every directory that is gone through must be there; what
they lead to need not be. -/
def walk (tree : FileTree) : Location → List String → Except FileError Location
  | here, [] => .ok here
  | here, name :: names =>
    match tree.node? here with
    | none => .error .notFound
    | some (.file _) => .error .notDirectory
    | some .directory =>
      if Path.isName name then tree.walk (child here name) names else .error .badPath

/-- Where a path leads from the top. The empty path leads nowhere. -/
def locate (tree : FileTree) (path : String) : Except FileError Location :=
  if path.isEmpty then .error .notFound
  else if Path.isUsable path then tree.walk [] (Path.names path)
  else .error .badPath

def readText (tree : FileTree) (path : String) : Except FileError String := do
  let location ← tree.locate path
  match tree.node? location with
  | none => throw .notFound
  | some .directory => throw .isDirectory
  | some (.file content) =>
    if Path.namesDirectory path then throw .notDirectory
    match String.fromUTF8? content with
    | some text => return text
    | none => throw .notText

/-- Where a file may be created or replaced. -/
def target (tree : FileTree) (path : String) : Except FileError Location := do
  let location ← tree.locate path
  match tree.node? location with
  | some .directory => throw .isDirectory
  | _ =>
    if Path.namesDirectory path then throw .notDirectory
    return location

/-- Creates the file or replaces its content. -/
def write (tree : FileTree) (path : String) (content : ByteArray) : Except FileError FileTree := do
  let location ← tree.target path
  return tree.put location (.file content)

/-- Moves a file to another path, replacing a file that is there. -/
def rename (tree : FileTree) (source path : String) : Except FileError FileTree := do
  let location ← tree.locate source
  match tree.node? location with
  | some (.file content) =>
    let goal ← tree.target path
    return (FileTree.mk (tree.nodes.erase location)).put goal (.file content)
  | some .directory => throw .isDirectory
  | none => throw .notFound

/-- Creates the directories that are missing on the way from `here`. -/
def makeDirectories (tree : FileTree) :
    Location → List String → FileTree × Except FileError Unit
  | _, [] => (tree, .ok ())
  | here, name :: names =>
    let next := child here name
    if Path.isName name then
      match tree.node? next with
      | some .directory => tree.makeDirectories next names
      | some (.file _) => (tree, .error .notDirectory)
      | none => (tree.put next .directory).makeDirectories next names
    else (tree, .error .badPath)

/-- Creates the directories that are missing above what a path names. When the path of the last
of them is unusable, none is created. -/
def makeParents (tree : FileTree) (path : String) : FileTree × Except FileError Unit :=
  if Path.isUsable (Path.parent path) then tree.makeDirectories [] (Path.names path).dropLast
  else (tree, .error .badPath)

/-- Creates the directory that a path names and those that are missing above it, as far as it can
be done. A path that ends in a dot names no directory that is still to be created. -/
def makeDirectory (tree : FileTree) (path : String) : FileTree :=
  if !Path.isUsable path then tree
  else if Path.lastPart? path = some ['.'] then (tree.makeParents path).1
  else (tree.makeDirectories [] (Path.names path)).1

/-- Removes a file, or a directory with all that is below it. A directory that is named by dots is
only emptied. -/
def remove (tree : FileTree) (path : String) : FileTree :=
  match tree.locate path with
  | .error _ => tree
  | .ok location =>
    match tree.node? location with
    | none => tree
    | some (.file _) =>
      if Path.namesDirectory path then tree else ⟨tree.nodes.erase location⟩
    | some .directory =>
      let stays := Path.lastPart? path = some ['.'] || Path.lastPart? path = some ['.', '.']
      ⟨tree.nodes.filter fun other _ => !location.isPrefixOf other || (stays && other = location)⟩

/-- All paths below the top in order; those of directories end in a separator. -/
def listing (tree : FileTree) : List String :=
  let line : Location × Node → String
    | (location, .file _) => "/".intercalate location
    | (location, .directory) => "/".intercalate location ++ "/"
  (tree.nodes.toList.map line).mergeSort

end FileTree

end ShaderIdentity
