import ShaderIdentity.Text.Digits

/-! A compiled shader is a stream of little-endian 32-bit tokens that ends with the end token. Its
length is not known in advance: it is found by looking for that token within a limit. -/
namespace ShaderIdentity

def endToken : UInt32 := 0x0000FFFF

/-- Real shaders take a few KiB. The limit keeps a stream that lacks its end token from being
read on into whatever lies behind it. -/
def defaultBytecodeLimit : Nat := 256 * 1024

inductive BytecodeError where
  | null
  | unterminated (scanned limit : Nat)
  deriving DecidableEq, Repr

def BytecodeError.message : BytecodeError → String
  | .null => "shader bytecode pointer is null"
  | .unterminated scanned limit =>
    s!"shader end token not found within {scanned} bytes (limit {limit})"

namespace Token

def ofBytes (a b c d : UInt8) : UInt32 :=
  a.toUInt32 ||| (b.toUInt32 <<< 8) ||| (c.toUInt32 <<< 16) ||| (d.toUInt32 <<< 24)

def bytes (token : UInt32) : List UInt8 :=
  [token.toUInt8, (token >>> 8).toUInt8, (token >>> 16).toUInt8, (token >>> 24).toUInt8]

end Token

/-- The whole tokens in `bytes`; up to three bytes that are left over are dropped. -/
def tokensOf : List UInt8 → List UInt32
  | a :: b :: c :: d :: rest => Token.ofBytes a b c d :: tokensOf rest
  | _ => []

def bytesOf (tokens : List UInt32) : List UInt8 :=
  tokens.flatMap Token.bytes

/-- How many tokens there are up to and with the first end token. -/
def countToEnd : List UInt32 → Option Nat
  | [] => none
  | token :: rest => if token = endToken then some 1 else (countToEnd rest).map (· + 1)

/-- The length in bytes of the stream at the start of `bytes`, end token included. At most `limit`
bytes are looked at. -/
def streamLength (bytes : List UInt8) (limit : Nat) : Except BytecodeError Nat :=
  let window := tokensOf (bytes.take limit)
  match countToEnd window with
  | some count => .ok (4 * count)
  | none => .error (.unterminated (4 * window.length) limit)

/-- The bytes of a stream that a host hands over as tokens of unknown number. `none` is a null
pointer. At most `limit / 4` tokens are looked at, and none after the end token. -/
def streamOfWords (words : Option (List UInt32)) (limit : Nat) :
    Except BytecodeError (List UInt8) :=
  match words with
  | none => .error .null
  | some words =>
    let window := words.take (limit / 4)
    match countToEnd window with
    | some count => .ok (bytesOf (window.take count))
    | none => .error (.unterminated (4 * window.length) limit)

end ShaderIdentity
