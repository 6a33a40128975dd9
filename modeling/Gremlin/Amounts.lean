import Gremlin.Text.Numeral

set_option autoImplicit false

/-!
Sums of amounts of 32 bits. Some are held at the greatest such number; the others are not checked
for overflow and go on from zero past it.
-/

namespace Gremlin

open Gremlin.Text (wordBound)

/-- A sum held at the greatest number of 32 bits. -/
def saturatingAdd (a b : Nat) : Nat := min (a + b) (wordBound - 1)

/-- A sum that goes on from zero past the greatest number of 32 bits. -/
def wrappingAdd (a b : Nat) : Nat := (a + b) % wordBound

def wrappingSum (amounts : List Nat) : Nat := amounts.foldl wrappingAdd 0

end Gremlin
