import Gremlin.Force
import Gremlin.Percentage
import Gremlin.Size

set_option autoImplicit false

/-! Effects of moves and of deaths, each with what it needs and nothing else. -/

namespace Gremlin

inductive SummonSpec where
  | named (id : String)
  /-- Some template of a size other than the summoner's own. -/
  | ofSize (size : Size)
deriving DecidableEq

inductive Scope where
  | player
  | allGremlins
  | source
deriving DecidableEq, Repr

inductive Magnitude where
  | amount (n : Nat)
  /-- Percentage points as written: `12.5%` is `percent 12.5`. -/
  | percent (points : Float)
deriving DecidableEq

namespace Magnitude

/-- The magnitude as an amount; points are rounded. -/
def toAmount : Magnitude → Nat
  | amount n => n
  | percent points => Decimal.roundWithin (Text.wordBound - 1) points

/-- The magnitude as a share; an amount counts as percentage points. -/
def toPercentage : Magnitude → Percentage
  | amount n => .ofPoints (Float.ofNat n)
  | percent points => .ofPoints points

end Magnitude

inductive Effect where
  /-- Takes from the player, more so under amplification. -/
  | drain (forces : Selector) (amount : Nat)
  /-- Takes from the player, never amplified. -/
  | decay (forces : Selector) (amount : Nat)
  | hardCap (forces : Selector) (limit : Nat)
  | softCap (forces : Selector) (limit : Nat)
  | totalCap (limit : Nat)
  | summon (spec : SummonSpec)
  | gainArmor (scope : Scope) (amount : Nat)
  | gainShields (scope : Scope) (amount : Nat)
  | raiseReflect (gain : Magnitude)
  /-- Adds to the drains of every other gremlin. -/
  | amplifyDrains (bonus : Nat)
  | forceDiscard (cards : Nat)
  | raiseCardCost (penalty : Nat)
  | limitHand (limit : Nat)
  | lockDraw
  | shuffleHand
  | copyLastCard
  | removeConstraints
  /-- Installs every cap again that the source has installed so far. -/
  | reinstateConstraints
deriving DecidableEq

namespace Effect

def magnitude? : Effect → Option Magnitude
  | drain _ n | decay _ n | hardCap _ n | softCap _ n | totalCap n | gainArmor _ n
  | gainShields _ n | amplifyDrains n | forceDiscard n | raiseCardCost n | limitHand n =>
    some (.amount n)
  | raiseReflect gain => some gain
  | summon _ | lockDraw | shuffleHand | copyLastCard | removeConstraints
  | reinstateConstraints => none

def scope : Effect → Scope
  | gainArmor scope _ | gainShields scope _ => scope
  | summon _ | raiseReflect _ | reinstateConstraints => .source
  | drain .. | decay .. | hardCap .. | softCap .. | totalCap _ | amplifyDrains _
  | forceDiscard _ | raiseCardCost _ | limitHand _ | lockDraw | shuffleHand | copyLastCard
  | removeConstraints => .player

def selector? : Effect → Option Selector
  | drain forces _ | decay forces _ | hardCap forces _ | softCap forces _ => some forces
  | _ => none

def summonSpec? : Effect → Option SummonSpec
  | summon spec => some spec
  | _ => none

/-- Whether an effect installs an overlay, so that applying it every tick changes nothing more. -/
def isStanding : Effect → Bool
  | hardCap .. | softCap .. | totalCap _ | amplifyDrains _ | raiseCardCost _ | limitHand _
  | lockDraw => true
  | _ => false

/-- Whether a passive move applies an effect every tick it is held. All others are resolved once,
when the move is entered. -/
def isContinuous : Effect → Bool
  | drain .. | decay .. => true
  | effect => effect.isStanding

end Effect

end Gremlin
