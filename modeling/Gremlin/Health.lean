import Gremlin.Amounts

set_option autoImplicit false

namespace Gremlin

structure Health where
  current : Nat
  max : Nat
deriving DecidableEq, Repr

namespace Health

def full (max : Nat) : Health := ⟨max, max⟩

/-- The share of the full health that is left; nothing of nothing. -/
def fraction (h : Health) : Float :=
  if h.max = 0 then 0.0 else Float.ofNat h.current / Float.ofNat h.max

def isDepleted (h : Health) : Bool := h.current == 0

def add (h : Health) (n : Nat) : Health :=
  { h with current := min (saturatingAdd h.current n) h.max }

def sub (h : Health) (n : Nat) : Health := { h with current := h.current - n }

def text (h : Health) : String := s!"Health ({h.current}/{h.max})"

end Health

end Gremlin
