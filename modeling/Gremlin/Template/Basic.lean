import Gremlin.Adaptive
import Gremlin.Move
import Gremlin.Pattern
import Gremlin.Targeting

set_option autoImplicit false

/-! Templates: what is common to all gremlins of a kind. -/

namespace Gremlin

structure Stats where
  maxHealth : Nat
  armor : Nat
  shields : Nat
  shieldRegen : Nat
  /-- Shields do not regenerate beyond this. -/
  shieldRegenMax : Nat
  barrierCount : Nat
  /-- The most damage one hit can do; none for no limit. -/
  damageCap : Option Nat
  reflect : Percentage
  /-- Executions only land at or below this health; none if they always do. -/
  executeThreshold : Option Nat
deriving DecidableEq

structure Template where
  id : String
  displayName : String
  description : String
  archetype : String
  size : Size
  stats : Stats
  targeting : Targeting
  moves : List Move
  pattern : Pattern
  /-- The health at which each move is entered, for a pattern by health; the opening move's is
  full health. -/
  thresholds : List Percentage
  /-- The weight of each move, for a random pattern; empty for equal weights. -/
  weights : List Nat
  adaptive : Option AdaptiveTable
  onDeath : List Effect
deriving DecidableEq

namespace Template

/-- Everything a gremlin of this kind can summon: by its moves, then by its death. -/
def summons (template : Template) : List SummonSpec :=
  (template.moves.flatMap (·.effects) ++ template.onDeath).filterMap Effect.summonSpec?

def text (template : Template) : String :=
  s!"{template.displayName} ({template.size.name}, {template.stats.maxHealth} hp, " ++
    s!"{template.pattern.name})"

end Template

end Gremlin
