import Gremlin.Clock
import Gremlin.Health
import Gremlin.Instance.Id
import Gremlin.Observation
import Gremlin.Template.Basic

set_option autoImplicit false

/-! Gremlins on the board: what a template's gremlin is born with and how its counters move. -/

namespace Gremlin

structure Instance where
  id : InstanceId
  template : Template
  health : Health
  armor : Nat
  shields : Nat
  barrier : Nat
  reflect : Percentage
  move : Nat
  ticksInMove : Nat
  /-- How often each move fired since it was last entered. -/
  triggers : List Nat
  ticksAlive : Nat
  spawnedAt : Ticks
  summoner : Option InstanceId
  observed : Observation
  /-- The distinct cap effects it has installed, the oldest first. -/
  installedCaps : List Effect

structure InstanceSummary where
  id : InstanceId
  templateId : String
  name : String
  health : Nat
deriving DecidableEq, Repr

def InstanceSummary.text (summary : InstanceSummary) : String :=
  s!"Gremlin<id={summary.id.text}, template={summary.templateId}, name={summary.name}, " ++
    s!"health={summary.health}>"

namespace Instance

def spawn (id : InstanceId) (template : Template) (spawnedAt : Ticks)
    (summoner : Option InstanceId) : Instance where
  id
  template
  health := .full template.stats.maxHealth
  armor := template.stats.armor
  shields := template.stats.shields
  barrier := template.stats.barrierCount
  reflect := template.stats.reflect
  move := 0
  ticksInMove := 0
  triggers := List.replicate template.moves.length 0
  ticksAlive := 0
  spawnedAt
  summoner
  observed := {}
  installedCaps := []

def isAlive (gremlin : Instance) : Bool := !gremlin.health.isDepleted

theorem isAlive_iff {gremlin : Instance} :
    gremlin.isAlive = true ↔ 0 < gremlin.health.current := by
  rw [isAlive, Health.isDepleted, Bool.not_eq_true', beq_eq_false_iff_ne]
  exact Nat.pos_iff_ne_zero.symm

def summary (gremlin : Instance) : InstanceSummary :=
  ⟨gremlin.id, gremlin.template.id, gremlin.template.displayName, gremlin.health.current⟩

def currentMove? (gremlin : Instance) : Option Move := gremlin.template.moves[gremlin.move]?

def passiveMove? (gremlin : Instance) : Option Move := gremlin.currentMove?.filter Move.isPassive

def currentTriggers (gremlin : Instance) : Nat := gremlin.triggers[gremlin.move]?.getD 0

/-- Enters a move; its count starts over. -/
def enterMove (gremlin : Instance) (index : Nat) : Instance :=
  { gremlin with move := index, ticksInMove := 0, triggers := gremlin.triggers.set index 0 }

def countTrigger (gremlin : Instance) : Instance :=
  { gremlin with triggers := gremlin.triggers.modify gremlin.move (wrappingAdd · 1) }

def age (gremlin : Instance) : Instance :=
  { gremlin with ticksInMove := gremlin.ticksInMove + 1, ticksAlive := gremlin.ticksAlive + 1 }

/-- Regenerates shields up to a bound; shields above it stay. -/
def regenerate (gremlin : Instance) : Instance :=
  let stats := gremlin.template.stats
  if gremlin.shields < stats.shieldRegenMax then
    { gremlin with
      shields := min (wrappingAdd gremlin.shields stats.shieldRegen) stats.shieldRegenMax }
  else gremlin

/-- Remembers a cap effect, once. -/
def rememberCap (gremlin : Instance) (effect : Effect) : Instance :=
  if effect ∈ gremlin.installedCaps then gremlin
  else { gremlin with installedCaps := gremlin.installedCaps ++ [effect] }

/-- Reflects more, at most everything. -/
def raiseReflect (gremlin : Instance) (gain : Percentage) : Instance :=
  let reflect := gremlin.reflect.add gain
  { gremlin with
    reflect := if Percentage.full.fraction < reflect.fraction then .full else reflect }

def observe (gremlin : Instance) (action : PlayerAction) : Instance :=
  { gremlin with observed := gremlin.observed.add action }

end Instance

end Gremlin
