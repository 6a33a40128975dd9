import Gremlin.Instance.Hit
import Gremlin.Pressure
import Gremlin.Text.Line

set_option autoImplicit false

/-! The events of an encounter and the lines they are shown in. -/

namespace Gremlin

open Gremlin.Text (call labelled optional flag quoted)

inductive PlayerRequest where
  | discard (cards : Nat)
  | shuffleHand
  | copyLastCard
deriving DecidableEq, Repr

inductive CapKind where
  | hard
  | soft
deriving DecidableEq, Repr

inductive Event where
  | tick (now : Ticks)
  | spawned (id : InstanceId) (templateId : String)
  | summoned (summoner : Option InstanceId) (id : InstanceId)
  | summonBlocked (id : InstanceId) (spec : SummonSpec)
  | moveEntered (id : InstanceId) (index : Nat)
  | moveFired (id : InstanceId) (index : Nat)
  | drained (source : Option InstanceId) (force : Force) (amount : Nat)
  | decayed (source : Option InstanceId) (force : Force) (amount : Nat)
  /-- Without a force the cap is one of the total. -/
  | capInstalled (source : Option InstanceId) (kind : CapKind) (force : Option Force) (limit : Nat)
  | pressureApplied (source : Option InstanceId) (kind : PressureKind) (value : Nat)
  | constraintsRemoved (id : InstanceId)
  | constraintsReinstated (id : InstanceId) (count : Nat)
  | armorGained (id : InstanceId) (amount : Nat)
  | shieldsGained (id : InstanceId) (amount : Nat)
  | reflectRaised (id : InstanceId) (gain : Percentage)
  | requested (source : Option InstanceId) (request : PlayerRequest)
  | hit (id : InstanceId) (outcome : HitOutcome)
  | executed (id : InstanceId) (landed : Bool)
  | died (id : InstanceId) (templateId : String)
  | terminated
deriving DecidableEq

structure TimedEvent where
  now : Ticks
  event : Event
deriving DecidableEq

def PlayerRequest.line : PlayerRequest → String
  | discard cards => call "Discard" [toString cards]
  | shuffleHand => "ShuffleHand"
  | copyLastCard => "CopyLastCard"

def CapKind.title : CapKind → String
  | hard => "Hard"
  | soft => "Soft"

def HitOutcome.line (o : HitOutcome) : String :=
  labelled "HitOutcome" [("raw", toString o.raw), ("applied", toString o.applied),
    ("barrier_absorbed", flag o.barrierAbsorbed), ("shield_damage", toString o.shieldDamage),
    ("armor_damage", toString o.armorDamage), ("health_damage", toString o.healthDamage),
    ("reflected", toString o.reflected), ("killed", flag o.killed)]

def sourceLine (source : Option InstanceId) : String := optional (source.map InstanceId.line)

def Event.line : Event → String
  | tick now => call "Tick" [call "Ticks" [toString now.count]]
  | spawned id templateId => call "Spawned" [id.line, quoted templateId]
  | summoned summoner id =>
    labelled "Summoned" [("summoner", sourceLine summoner), ("summoned", id.line)]
  | summonBlocked id spec => call "SummonBlocked" [id.line, quoted spec.text]
  | moveEntered id index => call "MoveEntered" [id.line, toString index]
  | moveFired id index => call "MoveFired" [id.line, toString index]
  | drained source force amount =>
    call "Drained" [sourceLine source, force.title, toString amount]
  | decayed source force amount =>
    call "Decayed" [sourceLine source, force.title, toString amount]
  | capInstalled source kind force limit =>
    call "CapInstalled"
      [sourceLine source, kind.title, optional (force.map Force.title), toString limit]
  | pressureApplied source kind value =>
    call "PressureApplied" [sourceLine source, kind.title, toString value]
  | constraintsRemoved id => call "ConstraintsRemoved" [id.line]
  | constraintsReinstated id count => call "ConstraintsReinstated" [id.line, toString count]
  | armorGained id amount => call "ArmorGained" [id.line, toString amount]
  | shieldsGained id amount => call "ShieldsGained" [id.line, toString amount]
  | reflectRaised id gain =>
    call "ReflectIncreased"
      [id.line, call "Percentage" [String.ofList (Decimal.marked gain.fraction)]]
  | requested source request => call "Request" [sourceLine source, request.line]
  | hit id outcome => call "Hit" [id.line, outcome.line]
  | executed id landed => call "Executed" [id.line, flag landed]
  | died id templateId => call "Died" [id.line, quoted templateId]
  | terminated => "Terminated"

end Gremlin
