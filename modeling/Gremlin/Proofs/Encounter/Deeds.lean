import Gremlin.Encounter.Effects
import Gremlin.Proofs.Board
import Gremlin.Proofs.Outcome
import Gremlin.Proofs.Random
import Gremlin.Proofs.Template
import Mathlib.Logic.Relation

set_option autoImplicit false

/-!
What effects can lead to, said once: every effect, with all the openings of the gremlins it
summons, is a sequence of deeds, each of which touches one thing, and of arrivals on the board.
-/

namespace Gremlin

open Gremlin.Random (Generator)

namespace Effect

/-- Whether an effect caps forces or their total. Gremlins remember these. -/
def isCap : Effect → Bool
  | hardCap .. | softCap .. | totalCap _ => true
  | _ => false

end Effect

namespace Encounter

/-- Taking of a force drains the pool of it, and writes a line unless there was nothing to take. -/
theorem takeForce_eq (event : Force → Nat → Event) (amount : Nat) (s : Encounter)
    (force : Force) : takeForce event amount s force = { s with
      pool := (s.pool.drain force amount).1
      journal := if (s.pool.drain force amount).2 = 0 then s.journal
        else s.journal.push ⟨s.now, event force (s.pool.drain force amount).2⟩ } := by
  unfold takeForce
  dsimp only
  split <;> rfl

/-- What no step of a fold changes, the fold does not. -/
theorem foldl_view {α β : Type} (view : Encounter → β) {act : Encounter → α → Encounter}
    (each : ∀ s argument, view (act s argument) = view s) (arguments : List α) (s : Encounter) :
    view (arguments.foldl act s) = view s := by
  induction arguments generalizing s with
  | nil => rfl
  | cons argument rest ih => exact (ih (act s argument)).trans (each s argument)

/-- One thing an effect does to a fight. Nobody joins or leaves the board by it. -/
inductive Deed : Encounter → Encounter → Prop
  | draw (s : Encounter) (generator : Generator) : Deed s { s with generator }
  | notify (s : Encounter) (notice : Notice) : Deed s (s.notify notice)
  | drain (s : Encounter) (source : Option InstanceId) (amount : Nat) (force : Force) :
      Deed s (takeForce (.drained source) amount s force)
  | decay (s : Encounter) (source : Option InstanceId) (amount : Nat) (force : Force) :
      Deed s (takeForce (.decayed source) amount s force)
  | remember (s : Encounter) (source : Option InstanceId) (effect : Effect)
      (cap : effect.isCap = true) : Deed s (s.rememberCap source effect)
  | hardCap (s : Encounter) (overlay : Overlay) (force : Force) :
      Deed s (installHardCap overlay s force)
  | softCap (s : Encounter) (overlay : Overlay) (force : Force) :
      Deed s (installSoftCap overlay s force)
  | totalCap (s : Encounter) (overlay : Overlay) : Deed s (installTotalCap overlay s)
  | pressure (s : Encounter) (kind : PressureKind) (overlay : Overlay) :
      Deed s (s.applyPressure kind overlay)
  | armor (s : Encounter) (n : Nat) (id : InstanceId) :
      Deed s (change (fun g => { g with armor := saturatingAdd g.armor n }) (.armorGained · n) s id)
  | shields (s : Encounter) (n : Nat) (id : InstanceId) :
      Deed s (change (fun g => { g with shields := saturatingAdd g.shields n })
        (.shieldsGained · n) s id)
  | reflect (s : Encounter) (gain : Percentage) (id : InstanceId) :
      Deed s (change (·.raiseReflect gain) (.reflectRaised · gain) s id)
  | request (s : Encounter) (source : Option InstanceId) (request : PlayerRequest) :
      Deed s (s.record (.requested source request))
  | release (s : Encounter) (id : InstanceId) :
      Deed s ({ s with
        pool := s.pool.releaseSource id
        pressure := s.pressure.releaseSource id }.record (.constraintsRemoved id))
  | reinstated (s : Encounter) (id : InstanceId) (count : Nat) :
      Deed s (s.record (.constraintsReinstated id count))
  | blocked (s : Encounter) (id : InstanceId) (spec : SummonSpec) :
      Deed s (s.record (.summonBlocked id spec))

/-- A gremlin joins the board: one the fight puts there, or the summon of one that may summon. -/
inductive Arrival : Encounter → Encounter → Prop
  | spawned (s : Encounter) (template : Template) (known : template ∈ s.bestiary.templates) :
      Arrival s ({ s with
        board := (s.board.spawn template s.now .bottom none).1 }.record
          (.spawned ⟨s.board.next⟩ template.id))
  | summoned (s : Encounter) (template : Template) (position : SummonPosition)
      (summoner : Option InstanceId) (known : template ∈ s.bestiary.templates)
      (allowed : ∀ id, summoner = some id → s.board.canSummon id = true) :
      Arrival s ({ s with
        board := (s.board.spawn template s.now position summoner).1 }.record
          (.summoned summoner ⟨s.board.next⟩))

/-- Deeds one after another. -/
abbrev Deeds : Encounter → Encounter → Prop := Relation.ReflTransGen Deed

/-- Deeds and arrivals one after another. -/
abbrev Effected : Encounter → Encounter → Prop :=
  Relation.ReflTransGen fun s s' => Deed s s' ∨ Arrival s s'

theorem Deeds.effected {s s' : Encounter} (deeds : Deeds s s') : Effected s s' :=
  deeds.lift id fun _ _ deed => .inl deed

theorem Deed.effected {s s' : Encounter} (deed : Deed s s') : Effected s s' := .single (.inl deed)

theorem Arrival.effected {s s' : Encounter} (arrival : Arrival s s') : Effected s s' :=
  .single (.inr arrival)

theorem foldl_deeds {α : Type} {act : Encounter → α → Encounter}
    (each : ∀ s argument, Deeds s (act s argument)) (arguments : List α) (s : Encounter) :
    Deeds s (arguments.foldl act s) := by
  induction arguments generalizing s with
  | nil => exact .refl
  | cons argument rest ih => exact (each s argument).trans (ih (act s argument))

/-! ### Every effect is a sequence of deeds and arrivals -/

theorem presentForces_deeds (s : Encounter) (selector : Selector) :
    Deeds s (s.presentForces selector).2 := by
  cases selector with
  | random => exact .single (.draw s _)
  | only _ | every | largest | smallest => exact .refl

theorem cappedForces_deeds (s : Encounter) (selector : Selector) :
    Deeds s (s.cappedForces selector).2 := by
  cases selector with
  | random => exact .single (.draw s _)
  | only _ | every | largest | smallest => exact .refl

theorem applyPlain_deeds (source : Option InstanceId) (duration : Duration) (s : Encounter)
    (effect : Effect) : Deeds s (applyPlain source duration s effect) := by
  cases effect with
  | drain selector n =>
    exact (s.presentForces_deeds selector).trans
      (foldl_deeds (fun s force => .single (.drain s source _ force)) _ _)
  | decay selector n =>
    exact (s.presentForces_deeds selector).trans
      (foldl_deeds (fun s force => .single (.decay s source _ force)) _ _)
  | hardCap selector limit =>
    exact ((Relation.ReflTransGen.single (.remember s source _ rfl)).trans
      (cappedForces_deeds _ selector)).trans
        (foldl_deeds (fun s force => .single (.hardCap s _ force)) _ _)
  | softCap selector limit =>
    exact ((Relation.ReflTransGen.single (.remember s source _ rfl)).trans
      (cappedForces_deeds _ selector)).trans
        (foldl_deeds (fun s force => .single (.softCap s _ force)) _ _)
  | totalCap limit =>
    exact (Relation.ReflTransGen.single (.remember s source _ rfl)).tail (.totalCap _ _)
  | gainArmor scope n => exact foldl_deeds (fun s id => .single (.armor s n id)) _ _
  | gainShields scope n => exact foldl_deeds (fun s id => .single (.shields s n id)) _ _
  | raiseReflect magnitude => exact foldl_deeds (fun s id => .single (.reflect s _ id)) _ _
  | amplifyDrains n => exact .single (.pressure s _ _)
  | raiseCardCost n => exact .single (.pressure s _ _)
  | limitHand n => exact .single (.pressure s _ _)
  | lockDraw => exact .single (.pressure s _ _)
  | forceDiscard n => exact .single (.request s source _)
  | shuffleHand => exact .single (.request s source _)
  | copyLastCard => exact .single (.request s source _)
  | removeConstraints =>
    cases source with
    | none => exact .refl
    | some id => exact .single (.release s id)
  | summon _ | reinstateConstraints => exact .refl

theorem reinstate_deeds (source : Option InstanceId) (duration : Duration) (s : Encounter) :
    Deeds s (s.reinstate source duration) := by
  cases source with
  | none => exact .refl
  | some id =>
    exact (foldl_deeds (fun s cap => applyPlain_deeds (some id) duration s cap) _ s).tail
      (.reinstated _ id _)

theorem summonTemplate_deeds (s : Encounter) (own : Option Template) (spec : SummonSpec) :
    Deeds s (s.summonTemplate own spec).2 := by
  cases spec with
  | named id => exact .refl
  | ofSize size => exact .single (.draw s _)

theorem drawn_deeds {s after : Encounter} {own template? : Option Template} {spec : SummonSpec}
    (drawn : s.summonTemplate own spec = (template?, after)) : Deeds s after := by
  have deeds := s.summonTemplate_deeds own spec
  rwa [drawn] at deeds

theorem summonTemplate_known {s : Encounter} {own : Option Template} {spec : SummonSpec}
    {template : Template} (chosen : (s.summonTemplate own spec).1 = some template) :
    template ∈ s.bestiary.templates := by
  cases spec with
  | named id => exact Bestiary.mem_of_get? chosen
  | ofSize size =>
    have candidate := Generator.mem_of_choose chosen
    exact (List.mem_filter.mp (List.mem_filter.mp candidate).1).1

theorem summonTemplate_board (s : Encounter) (own : Option Template) (spec : SummonSpec) :
    (s.summonTemplate own spec).2.board = s.board := by
  cases spec <;> rfl

theorem summonTemplate_bestiary (s : Encounter) (own : Option Template) (spec : SummonSpec) :
    (s.summonTemplate own spec).2.bestiary = s.bestiary := by
  cases spec <;> rfl

/-- The effects a passive move goes on doing bring nobody onto the board. -/
theorem continuous_deeds {source : Option InstanceId} {duration : Duration} {effects : List Effect}
    {s s' : Encounter} (continuous : ∀ effect ∈ effects, effect.isContinuous = true)
    (success : s.applyEffects source duration effects = .ok s') : Deeds s s' := by
  refine foldlM_preserves (motive := Deeds s) effects ?_ .refl success
  intro state effect next member so_far stepped
  have lasting := continuous effect member
  have plain : next = applyPlain source duration state effect := by
    cases effect <;> first | cases stepped; rfl | cases lasting
  rw [plain]
  exact so_far.trans (applyPlain_deeds source duration state effect)

end Encounter

end Gremlin
