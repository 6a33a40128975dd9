import Gremlin.Effect.Basic

set_option autoImplicit false

/-! Keywords of the effect grammar: an effect without its value. -/

namespace Gremlin

/-- The kind of an effect with its scope and forces, but without its value. -/
inductive Keyword where
  | drain (forces : Selector)
  | decay (forces : Selector)
  | hardCap (forces : Selector)
  | softCap (forces : Selector)
  | totalCap
  | summon
  | gainArmor (scope : Scope)
  | gainShields (scope : Scope)
  | raiseReflect
  | amplifyDrains
  | forceDiscard
  | raiseCardCost
  | limitHand
  | lockDraw
  | shuffleHand
  | copyLastCard
  | removeConstraints
  | reinstateConstraints
deriving DecidableEq, Repr

def Effect.keyword : Effect → Keyword
  | drain forces _ => .drain forces
  | decay forces _ => .decay forces
  | hardCap forces _ => .hardCap forces
  | softCap forces _ => .softCap forces
  | totalCap _ => .totalCap
  | summon _ => .summon
  | gainArmor scope _ => .gainArmor scope
  | gainShields scope _ => .gainShields scope
  | raiseReflect _ => .raiseReflect
  | amplifyDrains _ => .amplifyDrains
  | forceDiscard _ => .forceDiscard
  | raiseCardCost _ => .raiseCardCost
  | limitHand _ => .limitHand
  | lockDraw => .lockDraw
  | shuffleHand => .shuffleHand
  | copyLastCard => .copyLastCard
  | removeConstraints => .removeConstraints
  | reinstateConstraints => .reinstateConstraints

namespace Keyword

def name : Keyword → String
  | drain (.only force) => "drain_" ++ force.name
  | drain .largest => "drain_largest"
  | drain .smallest => "drain_smallest"
  | drain .random => "drain_random"
  | drain .every => "drain_all_types"
  | decay (.only force) => force.name ++ "_decay"
  | decay _ => "all_forces_decay"
  | hardCap (.only force) => force.name ++ "_hard_cap"
  | hardCap .largest => "max_resource_hard_cap"
  | hardCap .random => "random_force_hard_cap"
  | hardCap _ => "all_forces_hard_cap"
  | softCap (.only force) => force.name ++ "_soft_cap"
  | softCap .largest => "max_resource_soft_cap"
  | softCap .random => "random_force_soft_cap"
  | softCap _ => "all_forces_soft_cap"
  | totalCap => "total_resources_hard_cap"
  | summon => "summon"
  | gainArmor .allGremlins => "all_gremlins_gain_armor"
  | gainArmor _ => "self_gain_armor"
  | gainShields .allGremlins => "all_gremlins_gain_shields"
  | gainShields _ => "self_gain_shields"
  | raiseReflect => "reflect_increase"
  | amplifyDrains => "amplify_drains"
  | forceDiscard => "force_discard"
  | raiseCardCost => "card_cost_penalty"
  | limitHand => "hand_size_limit"
  | lockDraw => "no_card_draw"
  | shuffleHand => "shuffle_hand"
  | copyLastCard => "copy_recent_card_effect"
  | removeConstraints => "remove_constraints"
  | reinstateConstraints => "all_previous_constraints"

/-- The keywords that can be written, each once. -/
def all : List Keyword :=
  Force.all.map (drain <| .only ·) ++
  [drain .largest, drain .smallest, drain .random, drain .every] ++
  Force.all.map (decay <| .only ·) ++ [decay .every] ++
  Force.all.map (hardCap <| .only ·) ++ [hardCap .largest, hardCap .random, hardCap .every] ++
  Force.all.map (softCap <| .only ·) ++ [softCap .largest, softCap .random, softCap .every] ++
  [totalCap, summon, gainArmor .source, gainArmor .allGremlins, gainShields .source,
    gainShields .allGremlins, raiseReflect, amplifyDrains, forceDiscard, raiseCardCost, limitHand,
    lockDraw, shuffleHand, copyLastCard, removeConstraints, reinstateConstraints]

def aliases : List (String × Keyword) :=
  [("drain_highest", drain .largest), ("drain_lowest", drain .smallest), ("no_draw", lockDraw)]

def ofChars? (cs : List Char) : Option Keyword :=
  match named? all name cs with
  | some keyword => some keyword
  | none => (aliases.find? fun entry => entry.1.toList = cs).map (·.2)

theorem ofChars?_name : ∀ k ∈ all, ofChars? k.name.toList = some k := by
  decide +kernel

end Keyword

end Gremlin
