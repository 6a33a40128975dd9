import Gremlin.Adaptive

set_option autoImplicit false

/-! What gremlins observe of the player between two looks at their decision table. -/

namespace Gremlin

inductive PlayerAction where
  | damage (force : Option Force) (amount : Nat)
  | executionAttempt
  | gremlinKilled
  | cardPlayed
deriving DecidableEq, Repr

structure Observation where
  damage : ByForce Nat := .const 0
  totalDamage : Nat := 0
  executionAttempts : Nat := 0
  kills : Nat := 0
  cardsPlayed : Nat := 0
deriving DecidableEq, Repr

namespace Observation

/-- Counts an action. Damage without a force counts only in the total. -/
def add (seen : Observation) : PlayerAction → Observation
  | .damage force amount =>
    { seen with
      damage := match force with
        | some force => seen.damage.modify force (· + amount)
        | none => seen.damage
      totalDamage := seen.totalDamage + amount }
  | .executionAttempt => { seen with executionAttempts := seen.executionAttempts + 1 }
  | .gremlinKilled => { seen with kills := seen.kills + 1 }
  | .cardPlayed => { seen with cardsPlayed := seen.cardsPlayed + 1 }

def count (seen : Observation) : Counter → Nat
  | .damage force => seen.damage.get force
  | .totalDamage => seen.totalDamage
  | .executionAttempts => seen.executionAttempts
  | .kills => seen.kills
  | .cardsPlayed => seen.cardsPlayed

end Observation

end Gremlin
