import Gremlin.Decimal.Binary

set_option autoImplicit false

namespace Gremlin.Decimal

/-- The number `digits * 10 ^ exponent`. -/
structure Digits where
  digits : Nat
  exponent : Int
deriving DecidableEq

/-- The least `k` with `num / den < 10 ^ k`, for a positive ratio. -/
def scale (num den : Nat) : Int :=
  if den ≤ num then ((Nat.toDigits 10 (num / den)).length : Int)
  else
    let zeros := (Nat.toDigits 10 (den / num)).length - 1
    if num * Nat.pow 10 zeros < den then -(zeros : Int) else 1 - (zeros : Int)

/-- The exact digits of a binary fraction: a factor two below the point is a five above it. -/
def BinaryFraction.exactDigits (x : BinaryFraction) : Digits :=
  if 0 ≤ x.exponent then ⟨x.mantissa * Nat.pow 2 x.exponent.toNat, 0⟩
  else ⟨x.mantissa * Nat.pow 5 (-x.exponent).toNat, x.exponent⟩

/-- The neighbour of the number on the grid `10 ^ exponent` that reads back to it: the nearer one
if both do, and the upper one if they are equally near. -/
def Format.onGrid? (f : Format) (x : BinaryFraction) (exponent : Int) : Option Digits :=
  let num := x.num * Nat.pow 10 (-exponent).toNat
  let den := x.den * Nat.pow 10 exponent.toNat
  let below := num / den
  let lower := f.ofDecimal below exponent = x
  let upper := f.ofDecimal (below + 1) exponent = x
  if lower ∧ (¬ upper ∨ 2 * (num % den) < den) then some ⟨below, exponent⟩
  else if upper then some ⟨below + 1, exponent⟩
  else none

def Digits.stripZeros : Nat → Digits → Digits
  | 0, d => d
  | count + 1, d =>
    if d.digits % 10 = 0 ∧ d.digits ≠ 0 then stripZeros count ⟨d.digits / 10, d.exponent + 1⟩
    else d

/-- The digits on the coarsest grid that holds one that reads back, or the exact ones. -/
def Format.shortest (f : Format) (x : BinaryFraction) : Digits :=
  if x.mantissa = 0 then ⟨0, 0⟩
  else
    let top := scale x.num x.den
    let found := (List.range 17).findSome? fun n => f.onGrid? x (top - (n + 1 : Nat))
    (found.getD x.exactDigits).stripZeros 400

end Gremlin.Decimal
