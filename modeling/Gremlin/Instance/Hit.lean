import Gremlin.Instance.Basic

set_option autoImplicit false

/-! Hits: barrier, shields, armor and health, in this order. -/

namespace Gremlin

structure Hit where
  damage : Nat
  pierce : Bool
deriving DecidableEq, Repr

structure HitOutcome where
  raw : Nat
  applied : Nat
  barrierAbsorbed : Bool := false
  shieldDamage : Nat := 0
  armorDamage : Nat := 0
  healthDamage : Nat := 0
  reflected : Nat
  killed : Bool := false
deriving DecidableEq, Repr

namespace Instance

/-- What a hit of `raw` damage applies and what is reflected of it. -/
def incomingDamage (gremlin : Instance) (raw : Nat) : Nat × Nat :=
  let applied := match gremlin.template.stats.damageCap with
    | some cap => min raw cap
    | none => raw
  (applied, gremlin.reflect.share applied)

/-- Takes damage that no barrier stops: shields first, then armor unless it is pierced, then
health. -/
def takeDamage (gremlin : Instance) (pierce : Bool) (outcome : HitOutcome) :
    Instance × HitOutcome :=
  let shieldDamage := min outcome.applied gremlin.shields
  let afterShields := outcome.applied - shieldDamage
  let armorDamage := if pierce then 0 else min afterShields gremlin.armor
  let health := gremlin.health.sub (afterShields - armorDamage)
  ({ gremlin with
      shields := gremlin.shields - shieldDamage
      armor := gremlin.armor - armorDamage
      health },
    { outcome with
      shieldDamage
      armorDamage
      healthDamage := gremlin.health.current - health.current
      killed := health.isDepleted })

/-- Takes a hit. One that applies nothing or finds no life does nothing, and a layer of barrier
absorbs a whole hit. -/
def applyHit (gremlin : Instance) (hit : Hit) : Instance × HitOutcome :=
  let (applied, reflected) := gremlin.incomingDamage hit.damage
  let outcome : HitOutcome := { raw := hit.damage, applied, reflected }
  if applied = 0 ∨ gremlin.isAlive = false then (gremlin, outcome)
  else if 0 < gremlin.barrier then
    ({ gremlin with barrier := gremlin.barrier - 1 }, { outcome with barrierAbsorbed := true })
  else gremlin.takeDamage hit.pierce outcome

/-- Whether an execute lands: not above the threshold, if there is one. -/
def canBeExecuted (gremlin : Instance) : Bool :=
  match gremlin.template.stats.executeThreshold with
  | some threshold => gremlin.health.current ≤ threshold
  | none => true

def execute (gremlin : Instance) : Instance × Bool :=
  if gremlin.canBeExecuted then
    ({ gremlin with health := ⟨0, gremlin.health.max⟩ }, true)
  else (gremlin, false)

def heal (gremlin : Instance) (n : Nat) : Instance :=
  if gremlin.isAlive then { gremlin with health := gremlin.health.add n } else gremlin

end Instance

end Gremlin
