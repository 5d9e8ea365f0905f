/-! Paths as texts, and the names they are made of. -/
namespace ShaderIdentity

/-- The parts between the separators; there is one more than there are separators. -/
def splitAt (separator : Char) : List Char → List (List Char)
  | [] => [[]]
  | c :: rest =>
    if c = separator then [] :: splitAt separator rest
    else
      match splitAt separator rest with
      | [] => [[c]]
      | part :: parts => (c :: part) :: parts

namespace Path

/-- Whether the part of a path stays where it is. -/
def isIdle (part : List Char) : Bool :=
  part.isEmpty || part = ['.']

/-- The parts of a path that lead on. -/
def names (path : String) : List String :=
  ((splitAt '/' path.toList).filter (!isIdle ·)).map String.ofList

/-- A path that ends in a separator or a dot can only name a directory. -/
def namesDirectory (path : String) : Bool :=
  ((splitAt '/' path.toList).getLast?.map isIdle).getD true

/-- The last part of a path that is not empty. -/
def lastPart? (path : String) : Option (List Char) :=
  ((splitAt '/' path.toList).filter (!·.isEmpty)).getLast?

/-- The path of the directory that holds what a path names. -/
def parent (path : String) : String :=
  let named := (splitAt '/' path.toList).reverse.dropWhile isIdle
  String.ofList (['/'].intercalate ((named.drop 1).dropWhile isIdle).reverse)

/-- The bytes that a name may take. -/
def greatestName : Nat := 255

/-- The bytes that a path may take. -/
def greatestPath : Nat := 4095

/-- Whether a name may be looked up in a directory. -/
def isName (name : String) : Bool :=
  name.utf8ByteSize ≤ greatestName

/-- Whether a path may be followed. -/
def isUsable (path : String) : Bool :=
  path.utf8ByteSize ≤ greatestPath && path.toList.all (· ≠ '\x00')

/-- One separator stands between the two, and none is added when there is nothing before it or
one is there already. -/
def join (directory name : String) : String :=
  if directory.isEmpty || directory.toList.getLast? = some '/' then directory ++ name
  else directory ++ "/" ++ name

end Path

end ShaderIdentity
