import ShaderIdentity.Json.Value
import ShaderIdentity.Json.Quotation

/-! JSON texts of values, on one line or with one member a line. -/
namespace ShaderIdentity.Json

/-- What stands between the parts of an array or object that is not empty: before every part, as
many levels deep as given, and around a colon. -/
structure Layout where
  gap : Nat → List Char
  colon : List Char

def Layout.compact : Layout := ⟨fun _ => [], [':']⟩

/-- Every part begins a line and is indented by two spaces a level. -/
def Layout.indented : Layout :=
  ⟨fun level => '\n' :: List.replicate (2 * level) ' ', [':', ' ']⟩

namespace Value

mutual

/-- The text of a value that stands `level` levels deep. -/
def write (layout : Layout) (level : Nat) : Value → List Char
  | .null => "null".toList
  | .boolean true => "true".toList
  | .boolean false => "false".toList
  | .number n => n.write
  | .string s => writeString s
  | .array [] => ['[', ']']
  | .array (item :: rest) =>
    '[' :: (layout.gap (level + 1) ++ write layout (level + 1) item ++
      writeItems layout level rest)
  | .object [] => ['{', '}']
  | .object ((key, value) :: rest) =>
    '{' :: (layout.gap (level + 1) ++ writeString key ++ layout.colon ++
      write layout (level + 1) value ++ writeMembers layout level rest)

/-- The items behind the first, and the bracket that closes the array. -/
def writeItems (layout : Layout) (level : Nat) : List Value → List Char
  | [] => layout.gap level ++ [']']
  | item :: rest =>
    ',' :: (layout.gap (level + 1) ++ write layout (level + 1) item ++
      writeItems layout level rest)

/-- The members behind the first, and the bracket that closes the object. -/
def writeMembers (layout : Layout) (level : Nat) : List (String × Value) → List Char
  | [] => layout.gap level ++ ['}']
  | (key, value) :: rest =>
    ',' :: (layout.gap (level + 1) ++ writeString key ++ layout.colon ++
      write layout (level + 1) value ++ writeMembers layout level rest)

end

def compact (value : Value) : String :=
  String.ofList (value.write .compact 0)

def pretty (value : Value) : String :=
  String.ofList (value.write .indented 0)

end Value

end ShaderIdentity.Json
