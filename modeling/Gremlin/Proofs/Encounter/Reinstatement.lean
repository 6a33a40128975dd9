import Gremlin.Proofs.Encounter.Certainty
import Gremlin.Proofs.Encounter.Limits
import Gremlin.Proofs.Encounter.PassiveOverlays

set_option autoImplicit false

/-!
A gremlin reinstates the caps it remembers. They are installed once more in the order in which they
were first installed, so in each slot the last one that covers it is left, whatever overlay the
gremlin had there before.
-/

namespace Gremlin

namespace OverlaySet

/-- The overlays with the one that a source lays for a time, if it lays one. -/
def lay (set : OverlaySet) (duration : Duration) (source : InstanceId) : Option Nat → OverlaySet
  | some value => set.install ⟨value, duration, some source⟩
  | none => set

/-- The later of two values is left. -/
theorem lay_lay (set : OverlaySet) (duration : Duration) (source : InstanceId)
    (value later : Option Nat) :
    (set.lay duration source value).lay duration source later =
      set.lay duration source (later.or value) := by
  cases later with
  | none => rfl
  | some later =>
    cases value with
    | none => rfl
    | some value => exact set.install_install _ rfl

end OverlaySet

/-- The event of a cap that a gremlin installs. -/
def Event.IsCapOf (id : InstanceId) (event : Event) : Prop :=
  ∃ kind force value, event = .capInstalled (some id) kind force value

namespace Encounter

variable {id : InstanceId} {duration : Duration} {s s' s'' : Encounter}

/-- A gremlin lays caps anew: it lays one value in each slot at most, and touches nothing but the
pool and the journal. -/
structure Relays (id : InstanceId) (duration : Duration) (laid : Slot → Option Nat)
    (s s' : Encounter) : Prop where
  board : s'.board = s.board
  writes : Writes (Event.IsCapOf id) s s'
  overlays : ∀ slot, s'.overlays slot = (s.overlays slot).lay duration id (laid slot)

theorem Relays.refl (s : Encounter) : Relays id duration (fun _ => none) s s :=
  ⟨rfl, .refl s, fun _ => rfl⟩

theorem Relays.trans {laid laid' : Slot → Option Nat} (first : Relays id duration laid s s')
    (second : Relays id duration laid' s' s'') :
    Relays id duration (fun slot => (laid' slot).or (laid slot)) s s'' := by
  refine ⟨second.board.trans first.board, first.writes.trans second.writes, fun slot => ?_⟩
  rw [second.overlays, first.overlays, OverlaySet.lay_lay]

/-! ### One cap -/

theorem Installs.lay {slot : Slot} {value : Nat}
    (installs : Installs slot ⟨value, duration, some id⟩ s s') (other : Slot) :
    s'.overlays other =
      (s.overlays other).lay duration id (if other = slot then some value else none) := by
  by_cases here : other = slot
  · rw [if_pos here, here]
    exact installs.there
  · rw [if_neg here]
    exact installs.elsewhere other here

section Forces

variable {act : Encounter → Force → Encounter} {place : Force → Slot} {value : Nat}
  (each : ∀ s f, Relays id duration (fun slot => if slot = place f then some value else none) s
    (act s f))

include each

theorem Relays.foldl (forces : List Force) (s : Encounter) :
    Relays id duration (fun slot => if slot ∈ forces.map place then some value else none) s
      (forces.foldl act s) := by
  induction forces generalizing s with
  | nil => exact .refl s
  | cons f rest ih =>
    have all := (each s f).trans (ih (act s f))
    have same : (fun slot => (if slot ∈ rest.map place then some value else none).or
        (if slot = place f then some value else none)) =
          fun slot => if slot ∈ (f :: rest).map place then some value else none := by
      funext slot
      by_cases later : slot ∈ rest.map place
      · simp only [later, ↓reduceIte, Option.some_or, List.map_cons, List.mem_cons, or_true]
      · simp only [later, ↓reduceIte, Option.none_or, List.map_cons, List.mem_cons, or_false]
    rw [same] at all
    exact all

end Forces

end Encounter

end Gremlin
