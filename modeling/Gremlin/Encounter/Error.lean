import Gremlin.Event
import Gremlin.Scenario

set_option autoImplicit false

/-! What can go wrong in an encounter, and what an encounter lets its listeners know. -/

namespace Gremlin

inductive EncounterError where
  | noGremlins
  | noTicks
  | lateAction (entry : ScriptEntry) (maxTicks : Nat)
  | unknownForce (error : UnknownName)
  | unknownTemplate (templateId : String)
  | unknownInstance (id : InstanceId)
  | ended (now : Ticks)
  /-- Summons open one another without end. -/
  | endlessSummons
deriving DecidableEq, Repr

def EncounterError.message : EncounterError → String
  | noGremlins => "encounter has no gremlins"
  | noTicks => "max_ticks must be positive"
  | lateAction entry maxTicks =>
    s!"scripted action {entry.action.line} at tick {entry.tick} is past max_ticks ({maxTicks})"
  | unknownForce e => e.message
  | unknownTemplate templateId => s!"unknown gremlin template '{templateId}'"
  | unknownInstance id => s!"no gremlin with id {id.text}"
  | ended now => s!"advanced a terminated encounter at {now.text}"
  | endlessSummons => "summons open one another without end"

inductive Notice where
  | registered (name : String) (id : InstanceId)
  | scripted (action : ScriptedAction)
  | terminated (now : Ticks)
  | noTarget (target : String) (now : Ticks)
  | unableToSpend (amount : Nat) (force : Force)
  | noTemplate (spec : SummonSpec)
  | failed (error : EncounterError)
  | summonBlocked (summoner : InstanceSummary) (spec : SummonSpec)
  | died (summary : InstanceSummary) (now : Ticks)
deriving DecidableEq

inductive Severity where
  | log
  | warning
  | error
deriving DecidableEq, Repr

namespace Notice

def severity : Notice → Severity
  | noTarget .. | unableToSpend .. | noTemplate _ => .warning
  | failed _ => .error
  | registered .. | scripted _ | terminated _ | summonBlocked .. | died .. => .log

def text : Notice → String
  | registered name id => s!"registered gremlin {name} with id {id.text}"
  | scripted action => s!"scripted {action.line}"
  | terminated now => s!"encounter terminated at {now.text}"
  | noTarget target now => s!"no target matching '{target}' at {now.text}"
  | unableToSpend amount force => s!"unable to spend {amount} {force.name}"
  | noTemplate spec => s!"no gremlin template available for summon={spec.text}"
  | failed error => error.message
  | summonBlocked summoner spec => s!"summon of {spec.text} blocked for {summoner.text}"
  | died summary now => s!"{summary.text} died at {now.text}"

end Notice

end Gremlin
