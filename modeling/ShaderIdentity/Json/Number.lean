import ShaderIdentity.Number.Shortest

/-! Numbers in JSON values, and how they are written. -/
namespace ShaderIdentity.Json

inductive Number where
  | integer (n : Int)
  | float (x : Binary64)
  deriving DecidableEq, Repr

/-- Exponents written without an `e`: `0.00001` is, `0.000001` is not. -/
def leastPlain : Int := -5

def greatestPlain : Int := 15

/-- Decimal digits with a point, or with an exponent that always has its sign. -/
def writeDecimal (digits : List Char) (power : Int) : List Char :=
  let exponent := power + digits.length - 1
  if leastPlain ≤ exponent ∧ exponent ≤ greatestPlain then
    if 0 ≤ power then digits ++ List.replicate power.toNat '0' ++ ['.', '0']
    else if 0 ≤ exponent then
      digits.take (exponent.toNat + 1) ++ '.' :: digits.drop (exponent.toNat + 1)
    else '0' :: '.' :: (List.replicate (-exponent - 1).toNat '0' ++ digits)
  else
    let point := if digits.length = 1 then [] else ['.']
    let sign := if exponent < 0 then '-' else '+'
    digits.take 1 ++ point ++ digits.drop 1 ++ 'e' :: sign :: Text.decimal exponent.natAbs

def writeFloat (x : Binary64) : List Char :=
  let sign := if x.negative then ['-'] else []
  if x.mantissa = 0 then sign ++ ['0', '.', '0']
  else
    let decimal := x.shortest
    sign ++ writeDecimal (Text.decimal decimal.digits) decimal.power

def writeInteger (n : Int) : List Char :=
  (if n < 0 then ['-'] else []) ++ Text.decimal n.natAbs

def Number.write : Number → List Char
  | .integer n => writeInteger n
  | .float x => writeFloat x

end ShaderIdentity.Json
