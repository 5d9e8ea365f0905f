/-! Finite binary64 numbers as exact dyadic fractions, and the rounding of a quotient to the
nearest of them. -/
namespace ShaderIdentity

/-- The number `± mantissa * 2 ^ exponent`. -/
structure Binary64 where
  negative : Bool
  mantissa : Nat
  exponent : Int
  deriving DecidableEq, Repr

namespace Binary64

/-- The exponent of the smallest positive number, which zero shares. -/
def leastExponent : Int := -1074

/-- A mantissa of 53 bits is at least this one and less than twice it. -/
def leastNormal : Nat := 0x10000000000000

def greatestExponent : Int := 971

def zero : Binary64 := ⟨false, 0, leastExponent⟩

/-- The whole number nearest to `a / b`; halfway it is the even one. -/
def divideNearest (a b : Nat) : Nat :=
  let quotient := a / b
  let rest := 2 * (a % b)
  if rest < b then quotient
  else if b < rest then quotient + 1
  else quotient + quotient % 2

/-- The exponent of the greatest power of two that is at most `a / b`. -/
def logTwo (a b : Nat) : Int :=
  let guess : Int := a.log2 - b.log2
  if b <<< guess.toNat ≤ a <<< (-guess).toNat then guess else guess - 1

/-- The number nearest to `a / b`, halfway the one with the even mantissa; `none` when it lies
beyond the greatest. -/
def ofQuotient? (a b : Nat) : Option Binary64 :=
  if a = 0 then some zero
  else
    let exponent := max (logTwo a b - 52) leastExponent
    let mantissa := divideNearest (a <<< (-exponent).toNat) (b <<< exponent.toNat)
    let carried := if mantissa = 2 * leastNormal then ⟨false, leastNormal, exponent + 1⟩
      else ⟨false, mantissa, exponent⟩
    if carried.exponent ≤ greatestExponent then some carried else none

/-- The product of two magnitudes. -/
def mul? (x y : Binary64) : Option Binary64 :=
  let exponent := x.exponent + y.exponent
  ofQuotient? ((x.mantissa * y.mantissa) <<< exponent.toNat) (1 <<< (-exponent).toNat)

/-- The quotient of two magnitudes. -/
def div? (x y : Binary64) : Option Binary64 :=
  let exponent := x.exponent - y.exponent
  ofQuotient? (x.mantissa <<< exponent.toNat) (y.mantissa <<< (-exponent).toNat)

/-- The greatest power of ten that is scaled by in one step. -/
def greatestPower : Nat := 308

def times? (x : Binary64) (power : Nat) : Option Binary64 :=
  if power ≤ greatestPower then (ofQuotient? (Nat.pow 10 power) 1).bind x.mul?
  else if x.mantissa = 0 then some x
  else none

def dividedBy? (x : Binary64) (power : Nat) : Option Binary64 :=
  if power ≤ greatestPower then (ofQuotient? (Nat.pow 10 power) 1).bind x.div?
  else if x.mantissa = 0 then some x
  else do
    let smaller ← (ofQuotient? (Nat.pow 10 greatestPower) 1).bind x.div?
    dividedBy? smaller (power - greatestPower)
termination_by power
decreasing_by simp only [greatestPower] at *; omega

/-- Reads `digits * 10 ^ power` by rounding the digits, rounding the power of ten and rounding
their product or quotient; `none` when the result lies beyond the greatest number. -/
def ofDecimal? (digits : Nat) (power : Int) : Option Binary64 := do
  let x ← ofQuotient? digits 1
  if 0 ≤ power then x.times? power.toNat else x.dividedBy? (-power).toNat

end Binary64

end ShaderIdentity
