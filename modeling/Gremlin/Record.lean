set_option autoImplicit false

/-!
Gremlin definitions as a template store supplies them: a row of columns, each with the value of a
blank cell as its default.
-/

namespace Gremlin

/-- A row of the template store. Numbers fit 32 bits. -/
structure Record where
  templateId : String := ""
  displayName : Option String := none
  description : String := ""
  archetype : String := ""
  sizeCategory : String := ""
  maxHealth : Nat := 0
  maxArmor : Nat := 0
  maxShields : Nat := 0
  shieldRegen : Nat := 0
  shieldRegenMax : Nat := 0
  hasBarrier : Bool := false
  barrierCount : Nat := 0
  damageCap : Nat := 0
  reflectPercent : Nat := 0
  executeImmunityThreshold : Nat := 0
  canBeTargeted : Bool := true
  targetProtectionCondition : String := ""
  summonPosition : String := ""
  summonCap : Nat := 0
  moves : String := ""
  movePattern : String := ""
  moveTransitions : String := ""
  moveWeights : String := ""
  adaptiveRules : String := ""
  adaptiveCheckTicks : Nat := 0
  onDeath : String := ""
deriving DecidableEq, Repr

end Gremlin
