import ShaderIdentity.Json.Mismatch

/-! What can be wrong with a JSON text, and where. -/
namespace ShaderIdentity.Json

/-- Why a text is no JSON text, or not one of the form that is asked for. -/
inductive Fault where
  | eofValue
  | eofList
  | eofObject
  | eofString
  | expectedColon
  | expectedListCommaOrEnd
  | expectedObjectCommaOrEnd
  | expectedWord
  | expectedValue
  | invalidEscape
  | invalidNumber
  | numberOutOfRange
  | controlCharacter
  | keyNotString
  | loneSurrogate
  | unpairedSurrogate
  | trailingComma
  | trailingCharacters
  | tooDeep
  | mismatch (cause : Mismatch)
  deriving DecidableEq, Repr

def Fault.message : Fault → String
  | .eofValue => "EOF while parsing a value"
  | .eofList => "EOF while parsing a list"
  | .eofObject => "EOF while parsing an object"
  | .eofString => "EOF while parsing a string"
  | .expectedColon => "expected \x60:\x60"
  | .expectedListCommaOrEnd => "expected \x60,\x60 or \x60]\x60"
  | .expectedObjectCommaOrEnd => "expected \x60,\x60 or \x60\x7d\x60"
  | .expectedWord => "expected ident"
  | .expectedValue => "expected value"
  | .invalidEscape => "invalid escape"
  | .invalidNumber => "invalid number"
  | .numberOutOfRange => "number out of range"
  | .controlCharacter => "control character (\\u0000-\\u001F) found while parsing a string"
  | .keyNotString => "key must be a string"
  | .loneSurrogate => "lone leading surrogate in hex escape"
  | .unpairedSurrogate => "unexpected end of hex escape"
  | .trailingComma => "trailing comma"
  | .trailingCharacters => "trailing characters"
  | .tooDeep => "recursion limit exceeded"
  | .mismatch cause => cause.message

/-- The bytes that the characters take in UTF-8. -/
def byteSize : List Char → Nat
  | [] => 0
  | c :: rest => c.utf8Size + byteSize rest

/-- A fault, and the number of bytes of the text that had not been looked at when it was found. -/
structure Failure where
  fault : Fault
  unread : Nat
  deriving DecidableEq, Repr

/-- The fault lies in the first byte of `rest`. -/
def Failure.atNext (fault : Fault) (rest : List Char) : Failure :=
  ⟨fault, byteSize rest - 1⟩

/-- The fault lies in what was read, and `rest` is behind it. -/
def Failure.afterRead (fault : Fault) (rest : List Char) : Failure :=
  ⟨fault, byteSize rest⟩

/-- A place in a text: lines are counted from one, columns by the bytes since the last newline. -/
structure Position where
  line : Nat
  column : Nat
  deriving DecidableEq, Repr

namespace Position

def start : Position := ⟨1, 0⟩

/-- The place `count` bytes into the text behind `here`. A place inside a character counts the
bytes of it that were looked at. -/
def advance (here : Position) (count : Nat) : List Char → Position
  | [] => here
  | c :: rest =>
    if count = 0 then here
    else if c = '\n' then advance ⟨here.line + 1, 0⟩ (count - 1) rest
    else if count ≤ c.utf8Size then { here with column := here.column + count }
    else advance { here with column := here.column + c.utf8Size } (count - c.utf8Size) rest

end Position

/-- Where in `text` the failure lies. -/
def Failure.position (failure : Failure) (text : List Char) : Position :=
  Position.start.advance (byteSize text - failure.unread) text

end ShaderIdentity.Json
