set_option autoImplicit false

namespace Gremlin

/-- A number of ticks, or the tick of that number. -/
structure Ticks where
  count : Nat
deriving DecidableEq, Repr

namespace Ticks

def text (t : Ticks) : String := s!"Ticks<{t.count}>"

def add (a b : Ticks) : Ticks := ⟨a.count + b.count⟩

/-- The ticks by which `a` exceeds `b`, none if it does not. -/
def sub (a b : Ticks) : Ticks := ⟨a.count - b.count⟩

instance : LT Ticks := ⟨fun a b => a.count < b.count⟩

instance (a b : Ticks) : Decidable (a < b) := inferInstanceAs (Decidable (a.count < b.count))

end Ticks

structure Clock where
  now : Ticks := ⟨0⟩
  terminated : Bool := false
deriving DecidableEq, Repr

namespace Clock

def terminate (clock : Clock) : Clock := { clock with terminated := true }

/-- The next tick; none once the clock is stopped. -/
def advance? (clock : Clock) : Option Clock :=
  if clock.terminated then none else some { clock with now := ⟨clock.now.count + 1⟩ }

end Clock

end Gremlin
