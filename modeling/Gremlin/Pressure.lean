import Gremlin.Overlay

set_option autoImplicit false

/-!
Standing modifiers on the player's cards and on drains. Nothing here is enforced but the
amplification of drains.
-/

namespace Gremlin

inductive PressureKind where
  | cardCost
  | handLimit
  | noDraw
  | amplifyDrains
deriving DecidableEq, Repr

namespace PressureKind

def all : List PressureKind := [cardCost, handLimit, noDraw, amplifyDrains]

def name : PressureKind → String
  | cardCost => "card_cost_penalty"
  | handLimit => "hand_size_limit"
  | noDraw => "no_card_draw"
  | amplifyDrains => "amplify_drains"

def title : PressureKind → String
  | cardCost => "CardCostPenalty"
  | handLimit => "HandSizeLimit"
  | noDraw => "NoCardDraw"
  | amplifyDrains => "AmplifyDrains"

end PressureKind

structure Pressure where
  cardCosts : OverlaySet := {}
  handLimits : OverlaySet := {}
  drawLocks : OverlaySet := {}
  amplifiers : OverlaySet := {}
deriving DecidableEq, Repr

namespace Pressure

def get (pressure : Pressure) : PressureKind → OverlaySet
  | .cardCost => pressure.cardCosts
  | .handLimit => pressure.handLimits
  | .noDraw => pressure.drawLocks
  | .amplifyDrains => pressure.amplifiers

def install (pressure : Pressure) (kind : PressureKind) (overlay : Overlay) : Pressure :=
  match kind with
  | .cardCost => { pressure with cardCosts := pressure.cardCosts.install overlay }
  | .handLimit => { pressure with handLimits := pressure.handLimits.install overlay }
  | .noDraw => { pressure with drawLocks := pressure.drawLocks.install overlay }
  | .amplifyDrains => { pressure with amplifiers := pressure.amplifiers.install overlay }

def cardCostPenalty (pressure : Pressure) : Nat := pressure.cardCosts.sum

def handSizeLimit? (pressure : Pressure) : Option Nat := pressure.handLimits.min?

def drawLocked (pressure : Pressure) : Bool := !pressure.drawLocks.isEmpty

/-- What all others add to the drains of `source`. -/
def drainAmplification (pressure : Pressure) (source : Option InstanceId) : Nat :=
  pressure.amplifiers.sumExcluding source

def mapOverlays (change : OverlaySet → OverlaySet) (pressure : Pressure) : Pressure where
  cardCosts := change pressure.cardCosts
  handLimits := change pressure.handLimits
  drawLocks := change pressure.drawLocks
  amplifiers := change pressure.amplifiers

def releaseAllPassive (pressure : Pressure) : Pressure := pressure.mapOverlays (·.releaseAllPassive)

def releasePassive (pressure : Pressure) (source : InstanceId) : Pressure :=
  pressure.mapOverlays (·.releasePassive source)

def releaseSource (pressure : Pressure) (source : InstanceId) : Pressure :=
  pressure.mapOverlays (·.releaseSource source)

def expire (pressure : Pressure) : Pressure := pressure.mapOverlays (·.expire)

end Pressure

end Gremlin
