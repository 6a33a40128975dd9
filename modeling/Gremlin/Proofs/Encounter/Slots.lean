import Gremlin.Proofs.Effect.Fates
import Gremlin.Proofs.Encounter.Deeds
import Gremlin.Proofs.Pool.Caps

set_option autoImplicit false

/-!
The slots of a fight that hold overlays, and what each thing done to a fight does to them.
-/

namespace Gremlin

namespace Encounter

/-- The overlays of a slot. -/
def overlays (s : Encounter) : Slot → OverlaySet
  | .hardCap f => s.pool.hardCaps.get f
  | .softCap f => s.pool.softCaps.get f
  | .totalCap => s.pool.totalCaps
  | .pressure kind => s.pressure.get kind

/-- The overlay of a gremlin in a slot. -/
def overlay? (s : Encounter) (slot : Slot) (id : InstanceId) : Option Overlay :=
  (s.overlays slot).of? (some id)

/-- The passive move a gremlin holds. -/
def held? (s : Encounter) (id : InstanceId) : Option Move :=
  (s.board.get? id).bind (·.passiveMove?)

theorem overlays_congr {s s' : Encounter} (hard : s'.pool.hardCaps = s.pool.hardCaps)
    (soft : s'.pool.softCaps = s.pool.softCaps) (total : s'.pool.totalCaps = s.pool.totalCaps)
    (pressure : s'.pressure = s.pressure) (slot : Slot) : s'.overlays slot = s.overlays slot := by
  cases slot with
  | hardCap f => exact congrArg (ByForce.get · f) hard
  | softCap f => exact congrArg (ByForce.get · f) soft
  | totalCap => exact total
  | pressure kind => exact congrArg (Pressure.get · kind) pressure

theorem overlays_mapOverlays (change : OverlaySet → OverlaySet) (s : Encounter) (slot : Slot) :
    ({ s with
      pool := s.pool.mapOverlays change
      pressure := s.pressure.mapOverlays change } : Encounter).overlays slot =
        change (s.overlays slot) := by
  cases slot with
  | hardCap f | softCap f => exact ByForce.get_map change _ f
  | totalCap => rfl
  | pressure kind => cases kind <;> rfl

theorem overlays_takeForce (event : Force → Nat → Event) (amount : Nat) (s : Encounter)
    (force : Force) (slot : Slot) : (takeForce event amount s force).overlays slot = s.overlays slot := by
  rw [takeForce_eq]
  exact overlays_congr rfl rfl rfl rfl slot

/-- An overlay is installed in a slot, and nothing else becomes of any overlay. -/
structure Installs (slot : Slot) (overlay : Overlay) (s s' : Encounter) : Prop where
  there : s'.overlays slot = (s.overlays slot).install overlay
  elsewhere : ∀ other, other ≠ slot → s'.overlays other = s.overlays other

theorem installHardCap_installs (overlay : Overlay) (s : Encounter) (f : Force) :
    Installs (.hardCap f) overlay s (installHardCap overlay s f) := by
  have caps : (installHardCap overlay s f).pool.hardCaps =
      s.pool.hardCaps.modify f (·.install overlay) := Pool.clamp_hardCaps _
  refine ⟨?_, fun other apart => ?_⟩
  · rw [overlays, caps]
    exact ByForce.get_set_same ..
  · cases other with
    | hardCap g =>
      rw [overlays, caps]
      exact ByForce.get_set_other _ _ fun same => apart (same ▸ rfl)
    | softCap g => exact congrArg (ByForce.get · g) (Pool.clamp_softCaps _)
    | totalCap => exact Pool.clamp_totalCaps _
    | pressure kind => rfl

theorem installSoftCap_installs (overlay : Overlay) (s : Encounter) (f : Force) :
    Installs (.softCap f) overlay s (installSoftCap overlay s f) := by
  refine ⟨ByForce.get_set_same .., fun other apart => ?_⟩
  cases other with
  | hardCap g | totalCap | pressure kind => rfl
  | softCap g => exact ByForce.get_set_other _ _ fun same => apart (same ▸ rfl)

theorem installTotalCap_installs (overlay : Overlay) (s : Encounter) :
    Installs .totalCap overlay s (s.installTotalCap overlay) := by
  refine ⟨Pool.clamp_totalCaps _, fun other apart => ?_⟩
  cases other with
  | hardCap f => exact congrArg (ByForce.get · f) (Pool.clamp_hardCaps _)
  | softCap f => exact congrArg (ByForce.get · f) (Pool.clamp_softCaps _)
  | totalCap => exact absurd rfl apart
  | pressure kind => rfl

theorem applyPressure_installs (s : Encounter) (kind : PressureKind) (overlay : Overlay) :
    Installs (.pressure kind) overlay s (s.applyPressure kind overlay) := by
  refine ⟨by cases kind <;> rfl, fun other apart => ?_⟩
  cases other with
  | hardCap f | softCap f | totalCap => rfl
  | pressure other => cases kind <;> cases other <;> first | rfl | exact absurd rfl apart

end Encounter

end Gremlin
