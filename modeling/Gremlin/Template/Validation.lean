import Gremlin.Record
import Gremlin.Template.Basic
import Gremlin.Text.Title

set_option autoImplicit false

/-! Records become templates, or are refused with the first reason found. -/

namespace Gremlin

open Gremlin.Text

inductive Column where
  | templateId
  | maxHealth
  | reflectPercent
  | sizeCategory
  | movePattern
  | targetProtectionCondition
  | summonPosition
  | moveWeights
  | adaptiveRules
  | adaptiveCheckTicks
deriving DecidableEq, Repr

def Column.name : Column → String
  | templateId => "template_id"
  | maxHealth => "max_health"
  | reflectPercent => "reflect_percent"
  | sizeCategory => "size_category"
  | movePattern => "move_pattern"
  | targetProtectionCondition => "target_protection_condition"
  | summonPosition => "summon_position"
  | moveWeights => "move_weights"
  | adaptiveRules => "adaptive_rules"
  | adaptiveCheckTicks => "adaptive_check_ticks"

inductive ValidationReason where
  | moves (error : ReadError)
  | transitions (error : ReadError)
  | adaptiveRules (error : ReadError)
  | onDeath (error : ReadError)
  | unknownMove (source next : Nat)
  | backwardTransition (source next : Nat)
  | unknownSummon (target : String)
  | invalidField (column : Column) (value : String)
  | risingThresholds (points : List Float)
  | missingField (column : Column)
  | duplicate
  | document
deriving DecidableEq

structure ValidationError where
  templateId : String
  reason : ValidationReason
deriving DecidableEq

def ValidationReason.message : ValidationReason → String
  | moves e => s!"moves: {e.message}"
  | transitions e => s!"move_transitions: {e.message}"
  | adaptiveRules e => s!"adaptive_rules: {e.message}"
  | onDeath e => s!"on_death: {e.message}"
  | unknownMove source next => s!"transition {source}>{next} references a move that does not exist"
  | backwardTransition source next => s!"sequence transition {source}>{next} does not move forward"
  | unknownSummon target => s!"summon references unknown template {quoted target}"
  | invalidField column value => s!"invalid {column.name}: {quoted value}"
  | risingThresholds points =>
    let shown := ", ".intercalate (points.map fun x => String.ofList (Decimal.marked x))
    s!"hp thresholds must strictly decrease, got [{shown}]"
  | missingField column => s!"missing {column.name}"
  | duplicate => "duplicate template id"
  | document => "unreadable bestiary document"

def ValidationError.message (e : ValidationError) : String :=
  s!"template {quoted e.templateId}: {e.reason.message}"

namespace Template

/-- A number above zero; zero stands for a blank cell. -/
def ifPositive (n : Nat) : Option Nat := if n = 0 then none else some n

structure Traits where
  id : String
  size : Size
  pattern : Pattern
  protection : Protection
  summonPosition : SummonPosition

def orInvalid {α : Type} (column : Column) (value : String) (found : Except UnknownName α) :
    Except ValidationReason α :=
  found.mapError fun _ => .invalidField column value

/-- Checks the identifier, the numbers and the names of a record, in this order. -/
def readTraits (record : Record) : Except ValidationReason Traits := do
  let id := trimmed record.templateId
  if id.isEmpty then throw (.missingField .templateId)
  if !isIdentifier id.toList then throw (.invalidField .templateId id)
  if record.maxHealth = 0 then throw (.invalidField .maxHealth (toString record.maxHealth))
  if 100 < record.reflectPercent then
    throw (.invalidField .reflectPercent (toString record.reflectPercent))
  let size ← orInvalid .sizeCategory record.sizeCategory (Size.read record.sizeCategory)
  let pattern ← orInvalid .movePattern record.movePattern (Pattern.read record.movePattern)
  let protection ← orInvalid .targetProtectionCondition record.targetProtectionCondition
    (Protection.ofColumns record.canBeTargeted record.targetProtectionCondition)
  let position ← orInvalid .summonPosition record.summonPosition
    (SummonPosition.read record.summonPosition)
  return ⟨id, size, pattern, protection, position⟩

/-- The stats a record gives. A barrier has at least one layer. -/
def statsOf (record : Record) : Stats where
  maxHealth := record.maxHealth
  armor := record.maxArmor
  shields := record.maxShields
  shieldRegen := record.shieldRegen
  shieldRegenMax := record.shieldRegenMax
  barrierCount := if record.hasBarrier then max record.barrierCount 1 else 0
  damageCap := ifPositive record.damageCap
  reflect := .ofPoints (Float.ofNat record.reflectPercent)
  executeThreshold := ifPositive record.executeImmunityThreshold

def checkRules (pattern : Pattern) (moveCount : Nat) :
    List TransitionRule → Except ValidationReason Unit
  | [] => .ok ()
  | rule :: rest =>
    let source := rule.source
    let next := rule.transition.next
    if moveCount ≤ source ∨ moveCount ≤ next then .error (.unknownMove source next)
    else if pattern = .sequence ∧ next ≤ source then .error (.backwardTransition source next)
    else checkRules pattern moveCount rest

/-- The transition of a move: that of the last rule for it. -/
def transitionOf (rules : List TransitionRule) (index : Nat) : Option Transition :=
  (rules.reverse.find? (·.source = index)).map (·.transition)

/-- A move with its transition and the limit that follows from it or from the pattern. -/
def withTransition (pattern : Pattern) (rules : List TransitionRule) (move : Move) : Move :=
  let transition := transitionOf rules move.index
  { move with
    transition
    triggerLimit := match transition with
      | some transition => transition.condition.triggerLimit
      | none => pattern.triggerLimit }

def thresholdOf? (rule : TransitionRule) : Option Percentage :=
  match rule.transition.condition with
  | .atHealth threshold => some threshold
  | _ => none

/-- The health at which a move is entered: full for the opening move, then that of the first rule
about health that leads to it, or an even split of the health bar. -/
def thresholdFor (rules : List TransitionRule) (moveCount index : Nat) : Percentage :=
  if index = 0 then .full
  else match (TransitionRule.targeting index rules).findSome? thresholdOf? with
    | some threshold => threshold
    | none => ⟨Float.ofNat (moveCount - index) / Float.ofNat moveCount⟩

def strictlyFalling : List Percentage → Bool
  | [] => true
  | [_] => true
  | p :: q :: rest => decide (q.fraction < p.fraction) && strictlyFalling (q :: rest)

/-- The thresholds of a pattern by health; those after the opening move's must fall. -/
def readThresholds (pattern : Pattern) (rules : List TransitionRule) (moveCount : Nat) :
    Except ValidationReason (List Percentage) :=
  if pattern = .byHealth then
    let thresholds := (List.range moveCount).map (thresholdFor rules moveCount)
    if strictlyFalling (thresholds.drop 1) then .ok thresholds
    else .error (.risingThresholds (thresholds.map Percentage.points))
  else .ok []

def readWeight? (cs : List Char) : Option Nat :=
  match trim cs with
  | '+' :: digits => readBelow? wordBound digits
  | digits => readBelow? wordBound digits

/-- Reads weights: none for a blank text, or one for each move and one of them positive. -/
def readWeights? (s : String) (moveCount : Nat) : Option (List Nat) :=
  let cs := trim s.toList
  if cs.isEmpty then some []
  else ((cs.splitOn ',').mapM readWeight?).filter fun weights =>
    weights.length = moveCount && weights.any (0 < ·)

def readAdaptive (record : Record) (pattern : Pattern) (moveCount : Nat) :
    Except ValidationReason (Option AdaptiveTable) :=
  if pattern = .adaptive then
    if record.adaptiveCheckTicks = 0 then .error (.missingField .adaptiveCheckTicks)
    else match AdaptiveTable.read record.adaptiveCheckTicks record.adaptiveRules with
      | .error e => .error (.adaptiveRules e)
      | .ok table =>
        if table.rules.any (moveCount ≤ ·.move) then
          .error (.invalidField .adaptiveRules record.adaptiveRules)
        else .ok (some table)
  else .ok none

/-- The name a record gives, or the title of its identifier. -/
def displayNameOf (record : Record) (id : String) : String :=
  match record.displayName.map trimmed with
  | some name => if name.isEmpty then title id else name
  | none => title id

def ofColumns (record : Record) : Except ValidationReason Template := do
  let traits ← readTraits record
  let moves ← (Move.readList record.moves).mapError .moves
  let rules ← (TransitionRule.readList record.moveTransitions).mapError .transitions
  let onDeath ← (Effect.readList 0 record.onDeath.toList).mapError .onDeath
  checkRules traits.pattern moves.length rules
  let thresholds ← readThresholds traits.pattern rules moves.length
  let weights ← match readWeights? record.moveWeights moves.length with
    | some weights => pure weights
    | none => throw (.invalidField .moveWeights record.moveWeights)
  let adaptive ← readAdaptive record traits.pattern moves.length
  return {
    id := traits.id
    displayName := displayNameOf record traits.id
    description := record.description
    archetype := record.archetype
    size := traits.size
    stats := statsOf record
    targeting := ⟨traits.protection, traits.summonPosition, ifPositive record.summonCap⟩
    moves := moves.map (withTransition traits.pattern rules)
    pattern := traits.pattern
    thresholds
    weights
    adaptive
    onDeath }

def ofRecord (record : Record) : Except ValidationError Template :=
  (ofColumns record).mapError (⟨trimmed record.templateId, ·⟩)

end Template

end Gremlin
