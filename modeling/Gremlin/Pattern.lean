import Gremlin.Name
import Gremlin.Text.Blank

set_option autoImplicit false

/-! Move patterns: how a gremlin's current move evolves. -/

namespace Gremlin

inductive Pattern where
  /-- The opening move is held for ever. -/
  | single
  /-- Moves follow one another; the last is held. -/
  | sequence
  /-- Moves follow one another and start over after the last. -/
  | cycle
  /-- A finished move is followed by one drawn at random. -/
  | random
  /-- The move is set by how much health is left. -/
  | byHealth
  /-- The move is set by what the player did. -/
  | adaptive
deriving DecidableEq, Repr

namespace Pattern

def name : Pattern → String
  | single => "single"
  | sequence => "sequence"
  | cycle => "cycle"
  | random => "random"
  | byHealth => "hp_based"
  | adaptive => "adaptive"

def names : List (String × Pattern) :=
  [("", single), ("single", single), ("passive", single), ("none", single),
    ("sequence", sequence), ("cycle", cycle), ("random", random), ("hp_based", byHealth),
    ("dynamic_hp", byHealth), ("adaptive", adaptive)]

def read (s : String) : Except UnknownName Pattern :=
  let given := Text.trimmed s
  match names.lookup given with
  | some pattern => .ok pattern
  | none => .error ⟨.pattern, given⟩

/-- How often a move without a transition of its own fires before it is done; zero for no
limit. -/
def triggerLimit : Pattern → Nat
  | sequence | cycle | random => 1
  | single | byHealth | adaptive => 0

end Pattern

end Gremlin
