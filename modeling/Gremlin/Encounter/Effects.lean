import Gremlin.Encounter.Basic

set_option autoImplicit false

/-!
What effects do. Only a summon can lead to further effects, those of the summoned gremlin's
opening move; everything else is done at once.
-/

namespace Gremlin

open Gremlin.Random (Generator)

namespace Encounter

/-- Takes up to `amount` of a force and records what was taken, if anything was. -/
def takeForce (event : Force → Nat → Event) (amount : Nat) (s : Encounter) (force : Force) :
    Encounter :=
  let (pool, taken) := s.pool.drain force amount
  let s := { s with pool }
  if taken = 0 then s else s.record (event force taken)

/-- The forces a drain or decay acts on. A selection is made among the forces present. -/
def presentForces (s : Encounter) : Selector → List Force × Encounter
  | .only force => ([force], s)
  | .every => (Force.all, s)
  | .largest => (s.pool.largest?.toList, s)
  | .smallest => (s.pool.smallest?.toList, s)
  | .random =>
    let (force, generator) := s.generator.choose s.pool.present
    (force.toList, { s with generator })

/-- The forces a cap is installed on. A cap for the largest guards them all, so that shifting
resources does not dodge it. -/
def cappedForces (s : Encounter) : Selector → List Force × Encounter
  | .only force => ([force], s)
  | .random =>
    let (force, generator) := s.generator.choose Force.all
    (force.toList, { s with generator })
  | .every | .largest | .smallest => (Force.all, s)

def rememberCap (s : Encounter) (source : Option InstanceId) (effect : Effect) : Encounter :=
  match source with
  | some id => s.modify id (·.rememberCap effect)
  | none => s

def installHardCap (overlay : Overlay) (s : Encounter) (force : Force) : Encounter :=
  { s with pool := s.pool.installHardCap force overlay }.record
    (.capInstalled overlay.source .hard (some force) overlay.value)

def installSoftCap (overlay : Overlay) (s : Encounter) (force : Force) : Encounter :=
  { s with pool := s.pool.installSoftCap force overlay }.record
    (.capInstalled overlay.source .soft (some force) overlay.value)

def installTotalCap (overlay : Overlay) (s : Encounter) : Encounter :=
  { s with pool := s.pool.installTotalCap overlay }.record
    (.capInstalled overlay.source .hard none overlay.value)

def applyPressure (s : Encounter) (kind : PressureKind) (overlay : Overlay) : Encounter :=
  { s with pressure := s.pressure.install kind overlay }.record
    (.pressureApplied overlay.source kind overlay.value)

def inScope (s : Encounter) (source : Option InstanceId) : Scope → List InstanceId
  | .source => (source.filter fun id => (s.board.get? id).isSome).toList
  | .allGremlins => s.board.alive.map (·.id)
  | .player => []

def change (change : Instance → Instance) (event : InstanceId → Event) (s : Encounter)
    (id : InstanceId) : Encounter :=
  (s.modify id change).record (event id)

/-- Does an effect that leads to no other: everything but a summon and a reinstatement. -/
def applyPlain (source : Option InstanceId) (duration : Duration) (s : Encounter)
    (effect : Effect) : Encounter :=
  match effect with
  | .drain selector n =>
    let amount := saturatingAdd n (s.pressure.drainAmplification source)
    let (forces, s) := s.presentForces selector
    forces.foldl (takeForce (.drained source) amount) s
  | .decay selector n =>
    let (forces, s) := s.presentForces selector
    forces.foldl (takeForce (.decayed source) n) s
  | .hardCap selector limit =>
    let (forces, s) := (s.rememberCap source effect).cappedForces selector
    forces.foldl (installHardCap ⟨limit, duration, source⟩) s
  | .softCap selector limit =>
    let (forces, s) := (s.rememberCap source effect).cappedForces selector
    forces.foldl (installSoftCap ⟨limit, duration, source⟩) s
  | .totalCap limit =>
    (s.rememberCap source effect).installTotalCap ⟨limit, duration, source⟩
  | .gainArmor scope n =>
    (s.inScope source scope).foldl
      (change (fun g => { g with armor := saturatingAdd g.armor n }) (.armorGained · n)) s
  | .gainShields scope n =>
    (s.inScope source scope).foldl
      (change (fun g => { g with shields := saturatingAdd g.shields n }) (.shieldsGained · n)) s
  | .raiseReflect magnitude =>
    let gain := magnitude.toPercentage
    (s.inScope source .source).foldl
      (change (·.raiseReflect gain) (.reflectRaised · gain)) s
  | .amplifyDrains n => s.applyPressure .amplifyDrains ⟨n, duration, source⟩
  | .raiseCardCost n => s.applyPressure .cardCost ⟨n, duration, source⟩
  | .limitHand n => s.applyPressure .handLimit ⟨n, duration, source⟩
  | .lockDraw => s.applyPressure .noDraw ⟨1, duration, source⟩
  | .forceDiscard n => s.record (.requested source (.discard n))
  | .shuffleHand => s.record (.requested source .shuffleHand)
  | .copyLastCard => s.record (.requested source .copyLastCard)
  | .removeConstraints =>
    match source with
    | some id =>
      { s with
        pool := s.pool.releaseSource id
        pressure := s.pressure.releaseSource id }.record (.constraintsRemoved id)
    | none => s
  | .summon _ | .reinstateConstraints => s

/-- Installs every cap again that a gremlin remembers, the oldest first. -/
def reinstate (source : Option InstanceId) (duration : Duration) (s : Encounter) : Encounter :=
  match source with
  | some id =>
    let caps := match s.board.get? id with
      | some gremlin => gremlin.installedCaps
      | none => []
    (caps.foldl (applyPlain source duration) s).record (.constraintsReinstated id caps.length)
  | none => s

/-- The template a summon creates. One of a size is drawn among those of the size that are not the
summoner's own. -/
def summonTemplate (s : Encounter) (own : Option Template) :
    SummonSpec → Option Template × Encounter
  | .named id => (s.bestiary.get? id, s)
  | .ofSize size =>
    let candidates := (s.bestiary.ofSize size).filter fun candidate =>
      own.all fun template => template.id ≠ candidate.id
    let (template, generator) := s.generator.choose candidates
    (template, { s with generator })

/-- Creates a gremlin, unless the summoner may not summon or there is no template. `enter` is what
the new gremlin does on joining the board. -/
def summon (enter : InstanceId → Encounter → Except EncounterError Encounter)
    (source : Option InstanceId) (s : Encounter) (spec : SummonSpec) :
    Except EncounterError Encounter :=
  match source.filter fun id => !s.board.canSummon id with
  | some id =>
    let s := s.record (.summonBlocked id spec)
    match s.board.get? id with
    | some gremlin => .ok (s.notify (.summonBlocked gremlin.summary spec))
    | none => .ok s
  | none =>
    let own := (source.bind s.board.get?).map (·.template)
    match s.summonTemplate own spec with
    | (none, s) => .ok (s.notify (.noTemplate spec))
    | (some template, s) =>
      let position := match own with
        | some own => own.targeting.summonPosition
        | none => .bottom
      let (board, id) := s.board.spawn template s.now position source
      enter id ({ s with board }.record (.summoned source id))

/-- Does an effect on behalf of `source`. What it installs has the given duration. -/
def applyWith (enter : InstanceId → Encounter → Except EncounterError Encounter)
    (source : Option InstanceId) (duration : Duration) (s : Encounter) (effect : Effect) :
    Except EncounterError Encounter :=
  match effect with
  | .summon spec => s.summon enter source spec
  | .reinstateConstraints => .ok (s.reinstate source duration)
  | effect => .ok (s.applyPlain source duration effect)

/-- The effects of a passive move that are done on entering it: those that are done once, then
those that stand while it is held. -/
def entryEffects (move : Move) : List Effect :=
  move.effects.filter (!·.isContinuous) ++ move.effects.filter (·.isStanding)

/-- Does the entry effects of a gremlin's current move, if that is passive. A summoned gremlin does
its own in turn, at most `nesting` deep. -/
def enterPassive : Nat → InstanceId → Encounter → Except EncounterError Encounter
  | 0, _, _ => .error .endlessSummons
  | nesting + 1, id, s =>
    match (s.board.get? id).bind (·.passiveMove?) with
    | some move =>
      (entryEffects move).foldlM (applyWith (enterPassive nesting) (some id) .passive) s
    | none => .ok s

def applyEffect (s : Encounter) (source : Option InstanceId) (duration : Duration)
    (effect : Effect) : Except EncounterError Encounter :=
  s.applyWith (enterPassive s.nesting) source duration effect

def applyEffects (s : Encounter) (source : Option InstanceId) (duration : Duration)
    (effects : List Effect) : Except EncounterError Encounter :=
  effects.foldlM (fun s effect => s.applyEffect source duration effect) s

/-- Switches a gremlin to a move and swaps its passive overlays. -/
def enterMove (s : Encounter) (id : InstanceId) (index : Nat) : Except EncounterError Encounter :=
  let s := s.releasePassive id
  match s.board.get? id with
  | some _ =>
    enterPassive s.nesting id ((s.modify id (·.enterMove index)).record (.moveEntered id index))
  | none => .ok s

def spawn (s : Encounter) (templateId : String) : Except EncounterError (Encounter × InstanceId) :=
  match s.bestiary.get? templateId with
  | none => .error (.unknownTemplate templateId)
  | some template => do
    let (board, id) := s.board.spawn template s.now .bottom none
    let s ← enterPassive s.nesting id ({ s with board }.record (.spawned id templateId))
    return (s, id)

end Encounter

end Gremlin
