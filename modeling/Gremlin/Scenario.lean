import Gremlin.Observation
import Gremlin.Text.Line
import Gremlin.Wave

set_option autoImplicit false

/-! Scenarios: the board an encounter starts from, and what the player does at which tick. -/

namespace Gremlin

open Gremlin.Text (labelled optional flag quoted)

/-- An action of the player that is laid down in advance. A target is `first` for the first
gremlin that can be targeted, `all` for every live one, or a template id. -/
inductive ScriptedAction where
  | gain (force : Force) (amount : Nat)
  | spend (force : Force) (amount : Nat)
  | hit (target : String) (damage : Nat) (pierce : Bool) (force : Option Force)
  | execute (target : String)
  | heal (target : String) (amount : Nat)
  | playCard
  | observe (action : PlayerAction)
deriving DecidableEq, Repr

/-- An action and the tick after which it is done; zero is before the first. -/
structure ScriptEntry where
  tick : Nat
  action : ScriptedAction
deriving DecidableEq, Repr

structure Scenario where
  seed : Option Nat := none
  maxTicks : Option Nat := none
  /-- Starting amounts by force name, in the order of the names. -/
  resources : List (String × Nat) := []
  gremlins : List String
  script : List ScriptEntry := []
  source : Option String := none
deriving DecidableEq, Repr

def PlayerAction.line : PlayerAction → String
  | damage force amount =>
    labelled "Damage" [("force", optional (force.map Force.title)), ("amount", toString amount)]
  | executionAttempt => "ExecutionAttempt"
  | gremlinKilled => "AdversaryKilled"
  | cardPlayed => "CardPlayed"

def ScriptedAction.line : ScriptedAction → String
  | gain force amount =>
    labelled "Gain" [("force", force.title), ("amount", toString amount)]
  | spend force amount =>
    labelled "Spend" [("force", force.title), ("amount", toString amount)]
  | hit target damage pierce force =>
    labelled "Hit" [("target", quoted target), ("damage", toString damage),
      ("pierce", flag pierce), ("force", optional (force.map Force.title))]
  | execute target => labelled "Execute" [("target", quoted target)]
  | heal target amount =>
    labelled "Heal" [("target", quoted target), ("amount", toString amount)]
  | playCard => "PlayCard"
  | observe action => labelled "Observe" [("observed", action.line)]

/-- A wave starts with empty resources and no script. -/
def Wave.scenario (wave : Wave) : Scenario where
  gremlins := wave.gremlins
  source := some s!"wave {wave.waveId}"

end Gremlin
