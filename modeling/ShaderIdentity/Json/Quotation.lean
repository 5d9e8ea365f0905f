import ShaderIdentity.Json.Failure
import ShaderIdentity.Text.Digits

/-! Strings in JSON texts: how they are written, read and passed over. -/
namespace ShaderIdentity.Json

/-- Quotes, backslashes and control characters are written as escapes, all else as it is. -/
def escapeChar (c : Char) : List Char :=
  match c with
  | '"' => ['\\', '"']
  | '\\' => ['\\', '\\']
  | '\x08' => ['\\', 'b']
  | '\x0c' => ['\\', 'f']
  | '\n' => ['\\', 'n']
  | '\r' => ['\\', 'r']
  | '\t' => ['\\', 't']
  | c => if c.toNat < 0x20 then '\\' :: 'u' :: Text.hex 4 c.toNat else [c]

def writeString (s : String) : List Char :=
  '"' :: (s.toList.flatMap escapeChar ++ ['"'])

/-- What an escape of one letter stands for. -/
def simpleEscape? : Char → Option Char
  | '"' => some '"'
  | '\\' => some '\\'
  | '/' => some '/'
  | 'b' => some '\x08'
  | 'f' => some '\x0c'
  | 'n' => some '\n'
  | 'r' => some '\r'
  | 't' => some '\t'
  | _ => none

/-- The number that the four hexadecimal digits at the start of `s` make. Four bytes are taken
before they are looked at. -/
def readHex (s : List Char) : Except Failure Nat :=
  if byteSize s < 4 then .error (.afterRead .eofString [])
  else
    match (s.take 4).mapM Text.hexValue? with
    | some digits => .ok (digits.foldl (fun sofar digit => 16 * sofar + digit) 0)
    | none => .error ⟨.invalidEscape, byteSize s - 4⟩

/-- Fails on the next byte, or on the end of the text. -/
def expectInString (expected : Char) (fault : Fault) (s : List Char) : Except Failure Unit :=
  match s with
  | [] => .error (.afterRead .eofString [])
  | c :: _ => if c = expected then .ok () else .error (.atNext fault s)

def isLeading (unit : Nat) : Bool := 0xD800 ≤ unit && unit ≤ 0xDBFF

def isTrailing (unit : Nat) : Bool := 0xDC00 ≤ unit && unit ≤ 0xDFFF

/-- Behind `\u`: one unit of four digits, or a leading and a trailing one with `\u` between them
for a character that needs two. Gives the number of characters taken. -/
def readUnicode (s : List Char) : Except Failure (Char × Nat) := do
  let unit ← readHex s
  if isTrailing unit then throw (.afterRead .loneSurrogate (s.drop 4))
  if !isLeading unit then return (Char.ofNat unit, 4)
  expectInString '\\' .unpairedSurrogate (s.drop 4)
  expectInString 'u' .unpairedSurrogate (s.drop 5)
  let second ← readHex (s.drop 6)
  if !isTrailing second then throw (.afterRead .loneSurrogate (s.drop 10))
  return (Char.ofNat (0x10000 + 0x400 * (unit - 0xD800) + (second - 0xDC00)), 10)

/-- Behind a backslash: the character that the escape stands for and the number of characters it
takes. -/
def readEscape : List Char → Except Failure (Char × Nat)
  | [] => .error (.afterRead .eofString [])
  | 'u' :: rest => do
    let (c, taken) ← readUnicode rest
    return (c, taken + 1)
  | c :: rest =>
    match simpleEscape? c with
    | some meant => .ok (meant, 1)
    | none => .error (.atNext .invalidEscape (c :: rest))

/-- The characters up to the closing quote. The first `pending` belong to an escape that has been
read already. -/
def readChars (pending : Nat) : List Char → Except Failure (List Char × List Char)
  | [] => .error (.afterRead .eofString [])
  | c :: rest =>
    match pending with
    | pending + 1 => readChars pending rest
    | 0 =>
      if c = '"' then .ok ([], rest)
      else if c = '\\' then do
        let (meant, taken) ← readEscape rest
        let (chars, rest) ← readChars taken rest
        return (meant :: chars, rest)
      else if c.toNat < 0x20 then .error (.atNext .controlCharacter (c :: rest))
      else do
        let (chars, rest) ← readChars 0 rest
        return (c :: chars, rest)

/-- Reads a string behind its opening quote. -/
def readString (s : List Char) : Except Failure (String × List Char) := do
  let (chars, rest) ← readChars 0 s
  return (String.ofList chars, rest)

/-- Behind a backslash: the number of characters that the escape takes. Which character four
digits stand for is not asked. -/
def skipEscape : List Char → Except Failure Nat
  | [] => .error (.afterRead .eofString [])
  | 'u' :: rest => do
    let _ ← readHex rest
    return 5
  | c :: rest =>
    if (simpleEscape? c).isSome then .ok 1 else .error (.atNext .invalidEscape (c :: rest))

/-- Passes over a string behind its opening quote, as `readChars` reads it. -/
def skipChars (pending : Nat) : List Char → Except Failure (List Char)
  | [] => .error (.afterRead .eofString [])
  | c :: rest =>
    match pending with
    | pending + 1 => skipChars pending rest
    | 0 =>
      if c = '"' then .ok rest
      else if c = '\\' then do
        let taken ← skipEscape rest
        skipChars taken rest
      else if c.toNat < 0x20 then .error (.atNext .controlCharacter (c :: rest))
      else skipChars 0 rest

end ShaderIdentity.Json
