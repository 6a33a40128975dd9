import Gremlin.Decimal.Notation
import Gremlin.Text.Numeral

set_option autoImplicit false

/-!
Percentages, kept as fractions and applied in hundredths of a point, so that whole percentages
never lose a unit.
-/

namespace Gremlin

open Gremlin.Text (wordBound)

structure Percentage where
  fraction : Float
deriving DecidableEq

namespace Percentage

def zero : Percentage := ⟨0.0⟩

def full : Percentage := ⟨1.0⟩

def ofPoints (points : Float) : Percentage := ⟨points / 100.0⟩

def points (p : Percentage) : Float := p.fraction * 100.0

/-- The share in hundredths of a percentage point, rounded. -/
def basisPoints (p : Percentage) : Nat :=
  Decimal.roundWithin (wordBound - 1) (p.fraction * 10000.0)

/-- The share of an amount, rounded down, in 32 bits. -/
def share (p : Percentage) (amount : Nat) : Nat := amount * p.basisPoints / 10000 % wordBound

/-- The sum of two shares, held between nothing and everything. -/
def add (p q : Percentage) : Percentage :=
  let sum := p.fraction + q.fraction
  if sum < 0.0 then ⟨0.0⟩ else if 1.0 < sum then ⟨1.0⟩ else ⟨sum⟩

def text (p : Percentage) : String := String.ofList (Decimal.fixed 0 p.points ++ ['%'])

end Percentage

end Gremlin
