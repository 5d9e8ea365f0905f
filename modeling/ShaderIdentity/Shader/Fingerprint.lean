import ShaderIdentity.Shader.Checksum
import ShaderIdentity.Shader.TokenStream
import ShaderIdentity.Text.Quoted

/-! The identity of a shader: the checksum of its token stream. Two shaders with the same stream
share it whatever their handles are, and so do two streams whose checksums collide. -/
namespace ShaderIdentity

structure Fingerprint where
  code : UInt32
  deriving DecidableEq, Repr, Inhabited

namespace Fingerprint

/-- Stands for no known shader. -/
def unbound : Fingerprint := ⟨0⟩

instance : Ord Fingerprint := ⟨compareOn Fingerprint.code⟩

instance : Std.TransOrd Fingerprint := inferInstanceAs (Std.TransCmp (compareOn _))

instance : Std.LawfulEqOrd Fingerprint where
  compare_self := Std.ReflOrd.compare_self (α := UInt32)
  eq_of_compare same := congrArg mk (Std.LawfulEqOrd.eq_of_compare (α := UInt32) same)

/-- The decimal form, the same in documents and in the names of listings. -/
def text (fingerprint : Fingerprint) : String :=
  String.ofList (Text.decimal fingerprint.code.toNat)

/-- A text that is not the decimal form of a fingerprint. -/
structure ParseError where
  given : String
  deriving DecidableEq, Repr

def ParseError.message (err : ParseError) : String :=
  s!"invalid shader fingerprint {Text.quoted err.given}: " ++
    "expected a decimal u32 without sign, padding or leading zeros"

/-- Reads the decimal form and nothing else, so that no two texts name one fingerprint. -/
def parse (given : String) : Except ParseError Fingerprint :=
  let digits := given.toList
  let canonical := !digits.isEmpty && digits.all Char.isDigit &&
    (digits = ['0'] || digits.head? ≠ some '0')
  let number := Nat.ofDigitChars 10 digits 0
  if canonical && number < UInt32.size then .ok ⟨.ofNat number⟩ else .error ⟨given⟩

/-- The fingerprint of the stream at the start of `bytes`. Bytes behind its end token do not
count. -/
def ofBytes (bytes : List UInt8) (limit : Nat) : Except BytecodeError Fingerprint := do
  let length ← streamLength bytes limit
  return ⟨Checksum.crc32 (bytes.take length)⟩

end Fingerprint

end ShaderIdentity
