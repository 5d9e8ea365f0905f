import ShaderIdentity.Number.Binary64
import ShaderIdentity.Text.Digits

/-! The fewest decimal digits that read back as a given binary64 number. -/
namespace ShaderIdentity.Binary64

/-- The number `digits * 10 ^ power`. -/
structure Decimal where
  digits : Nat
  power : Int
  deriving DecidableEq, Repr

/-- The multiple of `10 ^ power` nearest to `x` among those that round to `x`, halfway the even
one. The numbers that round to `x` lie up to half a step from it, and only a quarter of a step
below when `x` is where the steps double; the ends count when the mantissa is even. -/
def onGrid? (x : Binary64) (power : Int) : Option Decimal :=
  let value := 4 * x.mantissa
  let above := value + 2
  let below :=
    if x.mantissa = leastNormal ∧ leastExponent < x.exponent then value - 1 else value - 2
  let shift := x.exponent - 2
  let unit := Nat.pow 10 (-power).toNat <<< shift.toNat
  let step := Nat.pow 10 power.toNat <<< (-shift).toNat
  let ends := x.mantissa % 2 = 0
  let rounds (d : Nat) :=
    if ends then below * unit ≤ d * step ∧ d * step ≤ above * unit
    else below * unit < d * step ∧ d * step < above * unit
  let nearest := divideNearest (value * unit) step
  let floor := value * unit / step
  ([nearest, floor, floor + 1].find? (fun d => rounds d)).map (⟨·, power⟩)

/-- The coarsest decimal grid with a point that rounds to `x` has the fewest digits. Grids run
from above the greatest number to the magnitude of the smallest. -/
def shortest (x : Binary64) : Decimal :=
  ((List.range 640).findSome? fun (i : Nat) => x.onGrid? (309 - i)).getD ⟨0, 0⟩

end ShaderIdentity.Binary64
