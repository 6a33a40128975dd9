import Gremlin.Amounts
import Gremlin.Instance.Id

set_option autoImplicit false

/-!
Overlays: limits and modifiers that gremlins put on top of the player's state, at most one per
source in each slot.
-/

namespace Gremlin

inductive Duration where
  /-- Through this many more ticks. -/
  | ticks (left : Nat)
  | permanent
  /-- As long as its source holds the passive move that installed it. -/
  | passive
deriving DecidableEq, Repr

structure Overlay where
  value : Nat
  duration : Duration
  source : Option InstanceId
deriving DecidableEq, Repr

/-- The overlays of one slot, the oldest first. -/
structure OverlaySet where
  overlays : List Overlay := []
deriving DecidableEq, Repr

namespace OverlaySet

def installIn (overlay : Overlay) : List Overlay → List Overlay
  | [] => [overlay]
  | other :: rest =>
    if other.source = overlay.source then overlay :: rest else other :: installIn overlay rest

/-- Installs an overlay; an earlier one of the same source is refreshed where it stands. -/
def install (set : OverlaySet) (overlay : Overlay) : OverlaySet := ⟨installIn overlay set.overlays⟩

def releasePassive (set : OverlaySet) (source : InstanceId) : OverlaySet :=
  ⟨set.overlays.filter fun o => !(o.source = some source && o.duration = .passive)⟩

def releaseAllPassive (set : OverlaySet) : OverlaySet :=
  ⟨set.overlays.filter fun o => o.duration ≠ .passive⟩

def releaseSource (set : OverlaySet) (source : InstanceId) : OverlaySet :=
  ⟨set.overlays.filter fun o => o.source ≠ some source⟩

def countDown (o : Overlay) : Overlay :=
  match o.duration with
  | .ticks left => { o with duration := .ticks (left - 1) }
  | .permanent | .passive => o

/-- Drops the overlays whose ticks are up and counts the other timed ones down. An overlay that is
installed for `n` ticks stays through `n` expiries. -/
def expire (set : OverlaySet) : OverlaySet :=
  ⟨(set.overlays.filter fun o => o.duration ≠ .ticks 0).map countDown⟩

def values (set : OverlaySet) : List Nat := set.overlays.map (·.value)

def min? (set : OverlaySet) : Option Nat := set.values.min?

def sum (set : OverlaySet) : Nat := wrappingSum set.values

/-- All values together but for those of `source`; without a source, all of them. -/
def sumExcluding (set : OverlaySet) (source : Option InstanceId) : Nat :=
  wrappingSum ((set.overlays.filter fun o => source.isNone || o.source ≠ source).map (·.value))

def isEmpty (set : OverlaySet) : Bool := set.overlays.isEmpty

end OverlaySet

end Gremlin
