set_option autoImplicit false

namespace Gremlin.Text

/-- The first and the last code point of each range, ascending. -/
abbrev Ranges := List (Nat × Nat)

def Ranges.has (ranges : Ranges) (c : Char) : Bool :=
  ranges.any fun range => range.1 ≤ c.toNat && c.toNat ≤ range.2

end Gremlin.Text
