import ShaderIdentity.Json.Number
import ShaderIdentity.Text.Quoted

/-! Why a JSON value does not have the form that is asked for. -/
namespace ShaderIdentity.Json

/-- As much of a value as a complaint about it tells. -/
inductive Found where
  | null
  | boolean (b : Bool)
  | number (n : Number)
  | string (s : String)
  | sequence
  | map
  deriving DecidableEq, Repr

def Found.text : Found → String
  | .null => "null"
  | .boolean b => s!"boolean \x60{b}\x60"
  | .number (.integer n) => s!"integer \x60{n}\x60"
  | .number (.float x) => s!"floating point \x60{String.ofList (writeFloat x)}\x60"
  | .string s => s!"string {Text.quoted s}"
  | .sequence => "sequence"
  | .map => "map"

/-- `form` names what is asked for. -/
inductive Mismatch where
  | wrongType (found : Found) (form : String)
  | outOfRange (n : Int) (form : String)
  | tooLong (length : Nat)
  | duplicate (field : String)
  deriving DecidableEq, Repr

def Mismatch.message : Mismatch → String
  | .wrongType found form => s!"invalid type: {found.text}, expected {form}"
  | .outOfRange n form => s!"invalid value: integer \x60{n}\x60, expected {form}"
  | .tooLong length => s!"invalid length {length}, expected fewer elements in array"
  | .duplicate field => s!"duplicate field \x60{field}\x60"

end ShaderIdentity.Json
