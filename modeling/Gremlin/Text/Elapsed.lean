import Gremlin.Text.Numeral

set_option autoImplicit false

/-! Spans of time in the largest unit that they fill. -/

namespace Gremlin.Text

/-- A unit of time: its name, how many nanoseconds it has, and the places of its fraction. -/
structure TimeUnit where
  name : String
  nanoseconds : Nat
  places : Nat

def TimeUnit.ofSpan (nanoseconds : Nat) : TimeUnit :=
  if nanoseconds < 1000 then ⟨"ns", 1, 0⟩
  else if nanoseconds < 1000000 then ⟨"µs", 1000, 3⟩
  else if nanoseconds < 1000000000 then ⟨"ms", 1000000, 6⟩
  else ⟨"s", 1000000000, 9⟩

/-- A span of time, exact, without zeros at the end of the fraction. -/
def elapsed (nanoseconds : Nat) : String :=
  let unit := TimeUnit.ofSpan nanoseconds
  let digits := decimal (nanoseconds % unit.nanoseconds)
  let padded := List.replicate (unit.places - digits.length) '0' ++ digits
  let fraction := (padded.reverse.dropWhile (· = '0')).reverse
  String.ofList (decimal (nanoseconds / unit.nanoseconds) ++
    (if fraction.isEmpty then [] else '.' :: fraction)) ++ unit.name

end Gremlin.Text
