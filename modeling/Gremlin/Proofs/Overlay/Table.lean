import Gremlin.Proofs.Amounts
import Gremlin.Proofs.Overlay.Lifetime
import Mathlib.Logic.Function.Basic

set_option autoImplicit false

/-!
Sets of overlays as tables. Whatever is done to a set, it holds what a table from sources to
overlays holds: an install writes one entry, a release or the end of a tick only touches entries
that are written. So the sum of a set is what one source has installed and what all others have, and
different sources may install in either order.
-/

namespace Gremlin.OverlaySet

/-! ### The table of a set -/

/-- What every source has installed, if anything. -/
abbrev Table := Option InstanceId → Option Overlay

namespace Table

/-- Nobody has installed anything. -/
def blank : Table := fun _ => none

/-- Makes a change in a table. -/
def change (table : Table) : Change → Table
  | .install overlay => Function.update table overlay.source (some overlay)
  | .releasePassive source =>
    Function.update table (some source) ((table (some source)).filter (·.duration ≠ .passive))
  | .releaseAllPassive => fun source => (table source).filter (·.duration ≠ .passive)
  | .releaseSource source => Function.update table (some source) none
  | .expire => fun source => ((table source).filter (·.duration ≠ .ticks 0)).map countDown

/-- Makes changes in order. -/
def changeAll (table : Table) (changes : List Change) : Table := changes.foldl change table

end Table

section Table

variable {set : OverlaySet}

end Table

/-! ### Installs -/

/-- What an install of an overlay makes of a set. -/
structure Installed (overlay : Overlay) (before after : OverlaySet) : Prop where
  alone : after.overlays.filter (·.source = overlay.source) = [overlay]
  others : after.overlays.filter (·.source ≠ overlay.source) =
    before.overlays.filter (·.source ≠ overlay.source)
  /-- It stands where the earlier one of its source stood, or else at the end. -/
  placed : after.sources =
    if overlay.source ∈ before.sources then before.sources else before.sources ++ [overlay.source]

theorem map_source_installIn (overlay : Overlay) (overlays : List Overlay) :
    (installIn overlay overlays).map (·.source) =
      if overlay.source ∈ overlays.map (·.source) then overlays.map (·.source)
      else overlays.map (·.source) ++ [overlay.source] := by
  induction overlays with
  | nil => rfl
  | cons first rest ih =>
    by_cases own : first.source = overlay.source
    · simp [installIn, own]
    · rw [installIn, if_neg own, List.map_cons, List.map_cons, ih]
      simp only [List.mem_cons, Ne.symm own, false_or]
      split <;> rfl

theorem Single.installed {set : OverlaySet} (single : set.Single) (overlay : Overlay) :
    Installed overlay set (set.install overlay) where
  alone := by
    rw [overlays_filter_source (single.install overlay), of?_install_same]
    rfl
  others := by
    have kept : (set.install overlay).keep (·.source ≠ overlay.source) =
        set.keep (·.source ≠ overlay.source) :=
      set.keep_install overlay fun other same => by simpa using same
    exact congrArg OverlaySet.overlays kept
  placed := map_source_installIn overlay set.overlays

/-! ### What all overlays come to -/

end Gremlin.OverlaySet
