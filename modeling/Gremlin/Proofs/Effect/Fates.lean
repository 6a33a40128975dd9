import Gremlin.Move
import Gremlin.Pressure

set_option autoImplicit false

/-!
What effects make of the overlays of their source. In each slot an effect keeps the overlay that is
there, lifts it, or lays one in its place; of many effects the last one that does not keep it
decides.
-/

namespace Gremlin

/-- What overlays limit or modify. -/
inductive Slot where
  | hardCap (f : Force)
  | softCap (f : Force)
  | totalCap
  | pressure (kind : PressureKind)
deriving DecidableEq, Repr

/-- Whether the overlays of a slot are caps. -/
def Slot.isCap : Slot → Bool
  | hardCap _ | softCap _ | totalCap => true
  | pressure _ => false

/-- What becomes of the overlay of a source in a slot. -/
inductive Fate where
  | keeps
  | lifts
  | lays (value : Nat)
  /-- Hangs on a random draw, or on which caps the source remembers. -/
  | unsure
deriving DecidableEq, Repr

namespace Fate

/-- An overlay is laid if there is a value for it. -/
def ofValue : Option Nat → Fate
  | some value => lays value
  | none => keeps

/-- One fate after another. -/
def andThen (first : Fate) : Fate → Fate
  | keeps => first
  | second => second

theorem keeps_andThen (fate : Fate) : keeps.andThen fate = fate := by cases fate <;> rfl

theorem andThen_assoc (first second third : Fate) :
    (first.andThen second).andThen third = first.andThen (second.andThen third) := by
  cases third <;> rfl

/-- A fate has come to pass. What `source` lays has the given duration. -/
def Holds (fate : Fate) (duration : Duration) (source : InstanceId)
    (before after : Option Overlay) : Prop :=
  match fate with
  | keeps => after = before
  | lifts => after = none
  | lays value => after = some ⟨value, duration, some source⟩
  | unsure => after = before ∨ after = none ∨ ∃ value, after = some ⟨value, duration, some source⟩

namespace Holds

variable {fate first second : Fate} {duration : Duration} {source : InstanceId}
  {before between after : Option Overlay}

theorem unsure (holds : fate.Holds duration source before after) :
    Fate.unsure.Holds duration source before after := by
  cases fate with
  | keeps => exact .inl holds
  | lifts => exact .inr (.inl holds)
  | lays value => exact .inr (.inr ⟨value, holds⟩)
  | unsure => exact holds

theorem andThen (early : first.Holds duration source before between)
    (late : second.Holds duration source between after) :
    (first.andThen second).Holds duration source before after := by
  cases second with
  | keeps =>
    have same : after = between := late
    exact same ▸ early
  | lifts | lays value => exact late
  | unsure =>
    rcases late with same | gone
    · exact same ▸ early.unsure
    · exact .inr gone

end Holds

end Fate

/-- Whether a cap on the selected forces is certain to be one on a given force. -/
def Selector.guards : Selector → Force → Bool
  | only f, g => f = g
  | every, _ | largest, _ | smallest, _ => true
  | random, _ => false

namespace Effect

/-- The value an effect is certain to lay in a slot. -/
def value? (slot : Slot) (effect : Effect) : Option Nat :=
  match effect, slot with
  | hardCap forces limit, .hardCap f | softCap forces limit, .softCap f =>
    if forces.guards f then some limit else none
  | totalCap limit, .totalCap => some limit
  | amplifyDrains bonus, .pressure .amplifyDrains => some bonus
  | raiseCardCost penalty, .pressure .cardCost => some penalty
  | limitHand limit, .pressure .handLimit => some limit
  | lockDraw, .pressure .noDraw => some 1
  | _, _ => none

/-- Whether an effect caps a random force, and so perhaps that of a slot. -/
def draws (slot : Slot) (effect : Effect) : Bool :=
  match effect, slot with
  | hardCap .random _, .hardCap _ | softCap .random _, .softCap _ => true
  | _, _ => false

/-- What an effect makes of the overlay of its source in a slot. -/
def fate (slot : Slot) (effect : Effect) : Fate :=
  match effect with
  | removeConstraints => .lifts
  | reinstateConstraints => if slot.isCap then .unsure else .keeps
  | effect => if effect.draws slot then .unsure else .ofValue (effect.value? slot)

/-- What effects one after another make of the overlay of their source in a slot. -/
def fates (slot : Slot) : List Effect → Fate
  | [] => .keeps
  | effect :: rest => (effect.fate slot).andThen (fates slot rest)

variable {slot : Slot}

theorem fates_append (slot : Slot) (first second : List Effect) :
    fates slot (first ++ second) = (fates slot first).andThen (fates slot second) := by
  induction first with
  | nil => rw [List.nil_append, fates, Fate.keeps_andThen]
  | cons effect rest ih => rw [List.cons_append, fates, fates, ih, Fate.andThen_assoc]

theorem draws_pressure (kind : PressureKind) (effect : Effect) :
    effect.draws (.pressure kind) = false := by
  unfold draws
  split <;> first | rfl | contradiction

/-- Only standing effects lay overlays of values of their own. -/
theorem isStanding_of_value? {effect : Effect} {value : Nat}
    (lays : effect.value? slot = some value) : effect.isStanding = true := by
  unfold value? at lays
  split at lays <;> first | rfl | cases lays

theorem fate_of_continuous {effect : Effect} (continuous : effect.isContinuous = true)
    (certain : effect.draws slot = false) : effect.fate slot = .ofValue (effect.value? slot) := by
  have decided : (if effect.draws slot then Fate.unsure else .ofValue (effect.value? slot)) =
      .ofValue (effect.value? slot) := by
    rw [certain, if_neg Bool.false_ne_true]
  cases effect <;> first | exact decided | cases continuous

/-- The last value that is laid stays. -/
theorem fates_eq_ofValue {effects : List Effect}
    (each : ∀ effect ∈ effects, effect.fate slot = .ofValue (effect.value? slot)) :
    fates slot effects = .ofValue (effects.filterMap (value? slot)).getLast? := by
  induction effects with
  | nil => rfl
  | cons effect rest ih =>
    rw [fates, each effect List.mem_cons_self,
      ih fun other member => each other (List.mem_cons_of_mem _ member)]
    cases lays : effect.value? slot with
    | none => rw [List.filterMap_cons_none lays, Fate.ofValue, Fate.keeps_andThen]
    | some value =>
      rw [List.filterMap_cons_some lays, List.getLast?_cons]
      cases (rest.filterMap (value? slot)).getLast? <;> rfl

theorem filterMap_value?_filter {kept : Effect → Bool} {effects : List Effect}
    (standing : ∀ effect : Effect, effect.isStanding = true → kept effect = true) :
    (effects.filter kept).filterMap (value? slot) = effects.filterMap (value? slot) := by
  rw [List.filterMap_filter]
  refine congrArg (List.filterMap · effects) (funext fun effect => ?_)
  cases lays : effect.value? slot with
  | none => exact ite_self none
  | some value => rw [if_pos (standing effect (isStanding_of_value? lays))]

/-- Whether an effect may lay an overlay in a slot. -/
def reaches (slot : Slot) (effect : Effect) : Bool :=
  match effect.fate slot with
  | .keeps | .lifts => false
  | .lays _ | .unsure => true

theorem fates_of_unreached {effects : List Effect}
    (unreached : ∀ effect ∈ effects, effect.reaches slot = false) :
    fates slot effects = .keeps ∨ fates slot effects = .lifts := by
  induction effects with
  | nil => exact .inl rfl
  | cons effect rest ih =>
    have one : effect.fate slot = .keeps ∨ effect.fate slot = .lifts := by
      have misses := unreached effect List.mem_cons_self
      unfold reaches at misses
      split at misses
      · exact .inl ‹_›
      · exact .inr ‹_›
      · cases misses
      · cases misses
    rw [fates]
    rcases ih fun other member => unreached other (List.mem_cons_of_mem _ member) with keeps | lifts
    · rw [keeps]
      exact one
    · rw [lifts]
      exact .inr rfl

/-- On the player only standing effects of certain values are laid. -/
theorem value?_of_reaches {kind : PressureKind} {effect : Effect}
    (reaches : effect.reaches (.pressure kind) = true) :
    (effect.value? (.pressure kind)).isSome = true := by
  cases lays : effect.value? (.pressure kind) with
  | some value => rfl
  | none =>
    have misses : effect.reaches (.pressure kind) = false := by
      unfold Effect.reaches
      by_cases continuous : effect.isContinuous = true
      · rw [fate_of_continuous continuous (draws_pressure kind effect), lays]
        rfl
      · cases effect <;> first | rfl | exact absurd rfl continuous
    rw [misses] at reaches
    cases reaches

end Effect

namespace Move

/-- The value of the overlay that a passive move keeps up in a slot while it is held: that of the
last of its effects that lays one there. -/
def standing? (slot : Slot) (move : Move) : Option Nat :=
  (move.effects.filterMap (Effect.value? slot)).getLast?

/-- Whether a move draws a force that it caps, and so perhaps that of a slot. -/
def draws (slot : Slot) (move : Move) : Bool := move.effects.any (·.draws slot)

/-- Whether a move may lay an overlay in a slot. -/
def reaches (slot : Slot) (move : Move) : Bool := move.effects.any (·.reaches slot)

variable {slot : Slot} {move : Move}

theorem draws_pressure (kind : PressureKind) (move : Move) : move.draws (.pressure kind) = false :=
  List.any_eq_false.mpr fun effect _ => Bool.eq_false_iff.mp (effect.draws_pressure kind)

theorem standing?_of_reaches {kind : PressureKind} (reaches : move.reaches (.pressure kind) = true) :
    ∃ value, move.standing? (.pressure kind) = some value := by
  obtain ⟨effect, member, lays⟩ := List.any_eq_true.mp reaches
  obtain ⟨value, certain⟩ := Option.isSome_iff_exists.mp (Effect.value?_of_reaches lays)
  have some : move.effects.filterMap (Effect.value? (.pressure kind)) ≠ [] :=
    List.ne_nil_of_mem (List.mem_filterMap.mpr ⟨effect, member, certain⟩)
  exact ⟨_, List.getLast?_eq_some_getLast some⟩

/-- What the effects that a move goes on doing, or those that stand, make of a slot. -/
theorem fates_filter {kept : Effect → Bool} (certain : move.draws slot = false)
    (standing : ∀ effect : Effect, effect.isStanding = true → kept effect = true)
    (continuous : ∀ effect : Effect, kept effect = true → effect.isContinuous = true) :
    Effect.fates slot (move.effects.filter kept) = .ofValue (move.standing? slot) := by
  rw [Effect.fates_eq_ofValue, Effect.filterMap_value?_filter standing, standing?]
  intro effect member
  obtain ⟨own, holds⟩ := List.mem_filter.mp member
  refine Effect.fate_of_continuous (continuous effect holds) ?_
  exact Bool.eq_false_iff.mpr (List.any_eq_false.mp certain effect own)

end Move

end Gremlin
