import ShaderIdentity.Shader.Fingerprint
import Std.Data.ExtTreeMap

/-! Copies of the constants that a host uploads, kept for each kind of register and each
fingerprint. Payloads are 32-bit words and are only copied. -/
namespace ShaderIdentity

inductive ConstantKind where
  | float
  | int
  | bool
  deriving DecidableEq, Repr

def ConstantKind.name : ConstantKind → String
  | .float => "Float"
  | .int => "Int"
  | .bool => "Bool"

/-- A constant register holds this many words. -/
def wordsPerRegister : Nat := 4

/-- The payload last uploaded to the registers from `start` on. -/
structure ConstantRecord where
  start : UInt32
  count : UInt32
  data : List UInt32
  deriving DecidableEq, Repr

/-- The payload as words, for integers and booleans: the same memory, read again four bytes at a
time. -/
def ConstantRecord.words (constant : ConstantRecord) : List UInt32 :=
  tokensOf (bytesOf constant.data)

/-- The words of the register that many places behind the first, if the record covers it. -/
def ConstantRecord.register? (constant : ConstantRecord) (offset : UInt32) :
    Option (List UInt32) :=
  let first := wordsPerRegister * offset.toNat
  if constant.count ≤ offset ∨ constant.data.length < first + wordsPerRegister then none
  else some ((constant.data.drop first).take wordsPerRegister)

/-- An upload with fewer words than its registers hold. -/
structure ShortData where
  expected : Nat
  actual : Nat
  deriving DecidableEq, Repr

def ShortData.message (err : ShortData) : String :=
  s!"constant upload expects {err.expected} floats but got {err.actual}"

/-- The records of one fingerprint, in the order in which their registers were first uploaded. -/
abbrev ConstantMap := Std.ExtTreeMap Fingerprint (List ConstantRecord)

/-- Records are replaced but never dropped. -/
structure ConstantShadow where
  floats : ConstantMap
  ints : ConstantMap
  bools : ConstantMap
  deriving DecidableEq

namespace ConstantShadow

def empty : ConstantShadow := ⟨∅, ∅, ∅⟩

def ofKind (shadow : ConstantShadow) : ConstantKind → ConstantMap
  | .float => shadow.floats
  | .int => shadow.ints
  | .bool => shadow.bools

def setKind (shadow : ConstantShadow) (kind : ConstantKind) (map : ConstantMap) :
    ConstantShadow :=
  match kind with
  | .float => { shadow with floats := map }
  | .int => { shadow with ints := map }
  | .bool => { shadow with bools := map }

def get? (shadow : ConstantShadow) (kind : ConstantKind) (fingerprint : Fingerprint) :
    Option (List ConstantRecord) :=
  (shadow.ofKind kind)[fingerprint]?

def recordAt? (shadow : ConstantShadow) (kind : ConstantKind) (fingerprint : Fingerprint)
    (start : UInt32) : Option ConstantRecord := do
  (← shadow.get? kind fingerprint).find? (fun constant => constant.start = start)

/-- Replaces the record with the same start, or adds one at the end. -/
def place (constant : ConstantRecord) : List ConstantRecord → List ConstantRecord
  | [] => [constant]
  | other :: rest =>
    if other.start = constant.start then constant :: rest else other :: place constant rest

/-- Keeps the words that the registers hold; words behind them are ignored. -/
def record (shadow : ConstantShadow) (kind : ConstantKind) (fingerprint : Fingerprint)
    (start count : UInt32) (data : List UInt32) : Except ShortData ConstantShadow :=
  let length := wordsPerRegister * count.toNat
  if data.length < length then .error ⟨length, data.length⟩
  else
    let constant := ⟨start, count, data.take length⟩
    let records := ((shadow.ofKind kind)[fingerprint]?).getD []
    .ok (shadow.setKind kind ((shadow.ofKind kind).insert fingerprint (place constant records)))

end ConstantShadow

end ShaderIdentity
