import ShaderIdentity.Json.Numeral
import ShaderIdentity.Json.Quotation
import ShaderIdentity.Json.Value

/-! JSON texts read into values, and the parts that every reader of JSON texts shares. -/
namespace ShaderIdentity.Json

def isBlank (c : Char) : Bool :=
  c = ' ' || c = '\n' || c = '\t' || c = '\r'

def skipBlanks (s : List Char) : List Char :=
  s.dropWhile isBlank

def startsNumber (c : Char) : Bool :=
  c = '-' || c.isDigit

/-- Reads a word whose first letter has been seen. -/
def expectWord : List Char → List Char → Except Failure (List Char)
  | [], rest => .ok rest
  | _ :: _, [] => .error (.afterRead .eofValue [])
  | expected :: word, c :: rest =>
    if c = expected then expectWord word rest else .error (.atNext .expectedWord (c :: rest))

/-- What comes next inside brackets. -/
inductive Next where
  /-- The bracket is closed, and this is behind it. -/
  | closed (rest : List Char)
  /-- Another part begins here. -/
  | more (rest : List Char)

/-- Inside an array, behind its opening bracket or, unless `first`, behind an item. -/
def nextItem (first : Bool) (s : List Char) : Except Failure Next :=
  match skipBlanks s with
  | [] => .error (.atNext .eofList [])
  | ']' :: rest => .ok (.closed rest)
  | c :: rest =>
    if first then .ok (.more (c :: rest))
    else if c = ',' then
      match skipBlanks rest with
      | [] => .error (.atNext .eofValue [])
      | ']' :: rest => .error (.atNext .trailingComma (']' :: rest))
      | rest => .ok (.more rest)
    else .error (.atNext .expectedListCommaOrEnd (c :: rest))

/-- Inside an object. Another part begins behind the opening quote of its key. -/
def nextKey (first : Bool) (s : List Char) : Except Failure Next :=
  match skipBlanks s with
  | [] => .error (.atNext .eofObject [])
  | '}' :: rest => .ok (.closed rest)
  | c :: rest =>
    if first then
      if c = '"' then .ok (.more rest) else .error (.atNext .keyNotString (c :: rest))
    else if c = ',' then
      match skipBlanks rest with
      | [] => .error (.atNext .eofValue [])
      | '"' :: rest => .ok (.more rest)
      | '}' :: rest => .error (.atNext .trailingComma ('}' :: rest))
      | rest => .error (.atNext .keyNotString rest)
    else .error (.atNext .expectedObjectCommaOrEnd (c :: rest))

def readColon (s : List Char) : Except Failure (List Char) :=
  match skipBlanks s with
  | [] => .error (.atNext .eofObject [])
  | ':' :: rest => .ok rest
  | rest => .error (.atNext .expectedColon rest)

/-- The bracket that closes an array of which no more items are wanted. -/
def closeArray (s : List Char) : Except Failure (List Char) :=
  match skipBlanks s with
  | [] => .error (.atNext .eofList [])
  | ']' :: rest => .ok rest
  | ',' :: rest =>
    match skipBlanks rest with
    | ']' :: rest => .error (.atNext .trailingComma (']' :: rest))
    | rest => .error (.atNext .trailingCharacters rest)
  | rest => .error (.atNext .trailingCharacters rest)

/-- The items of an array. Every item takes a character, so a fuel above the length of the text
lasts. -/
def readItems {α : Type} (item : List Char → Except Failure (α × List Char)) :
    Nat → Bool → List Char → Except Failure (List α × List Char)
  | 0, _, s => .error (.atNext .eofList s)
  | fuel + 1, first, s => do
    match ← nextItem first s with
    | .closed rest => return ([], rest)
    | .more s =>
      let (a, rest) ← item s
      let (others, rest) ← readItems item fuel false rest
      return (a :: others, rest)

/-- The members of an object. `member` continues behind a key, before its colon. -/
def readMembers {σ : Type} (member : σ → String → List Char → Except Failure (σ × List Char)) :
    Nat → Bool → σ → List Char → Except Failure (σ × List Char)
  | 0, _, _, s => .error (.atNext .eofObject s)
  | fuel + 1, first, state, s => do
    match ← nextKey first s with
    | .closed rest => return (state, rest)
    | .more s =>
      let (key, rest) ← readString s
      let (state, rest) ← member state key rest
      readMembers member fuel false state rest

/-- Nothing but blanks may follow the value that a text holds. -/
def finish (s : List Char) : Except Failure Unit :=
  match skipBlanks s with
  | [] => .ok ()
  | rest => .error (.atNext .trailingCharacters rest)

namespace Value

/-- The value of a word, a number or a string. -/
def readScalar (s : List Char) : Except Failure (Value × List Char) :=
  match s with
  | [] => .error (.atNext .eofValue [])
  | 'n' :: rest => do return (.null, ← expectWord ['u', 'l', 'l'] rest)
  | 't' :: rest => do return (.boolean true, ← expectWord ['r', 'u', 'e'] rest)
  | 'f' :: rest => do return (.boolean false, ← expectWord ['a', 'l', 's', 'e'] rest)
  | '"' :: rest => do
    let (s, rest) ← readString rest
    return (.string s, rest)
  | c :: rest =>
    if startsNumber c then do
      let (n, rest) ← readNumber (c :: rest)
      return (.number n, rest)
    else .error (.atNext .expectedValue (c :: rest))

/-- Continues behind the key of a member and adds the member to those before it. -/
def readMember (value : List Char → Except Failure (Value × List Char))
    (members : List (String × Value)) (key : String) (s : List Char) :
    Except Failure (List (String × Value) × List Char) := do
  let (value, rest) ← value (← readColon s)
  return (members ++ [(key, value)], rest)

/-- Reads a value in which brackets open at most `depth` levels deep. Members are listed as they
are written. -/
def read (depth : Nat) (s : List Char) : Except Failure (Value × List Char) :=
  match skipBlanks s, depth with
  | '[' :: rest, 0 => .error (.atNext .tooDeep ('[' :: rest))
  | '{' :: rest, 0 => .error (.atNext .tooDeep ('{' :: rest))
  | '[' :: rest, depth + 1 => do
    let (items, rest) ← readItems (read depth) (rest.length + 1) true rest
    return (.array items, rest)
  | '{' :: rest, depth + 1 => do
    let (members, rest) ← readMembers (readMember (read depth)) (rest.length + 1) true [] rest
    return (.object members, rest)
  | rest, _ => readScalar rest

/-- Brackets may open this many levels deep. -/
def greatestDepth : Nat := 127

/-- The value that a text holds, in canonical form. -/
def parse (text : String) : Except Failure Value := do
  let (value, rest) ← read greatestDepth text.toList
  finish rest
  return value.canonical

end Value

end ShaderIdentity.Json
