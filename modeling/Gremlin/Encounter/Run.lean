import Gremlin.Encounter.Tick

set_option autoImplicit false

/-!
Whole runs: a scenario is set up, its script is played tick by tick, and the run ends with the
board empty or the last tick past.
-/

namespace Gremlin

open Gremlin.Random (Generator)

namespace Encounter

def readResources : List (String × Nat) → Except EncounterError (List (Force × Nat))
  | [] => .ok []
  | (name, amount) :: rest =>
    match Force.read name with
    | .error e => .error (.unknownForce e)
    | .ok force =>
      match readResources rest with
      | .error e => .error e
      | .ok amounts => .ok ((force, amount) :: amounts)

def ofScenario (scenario : Scenario) (bestiary : Bestiary) : Except EncounterError Encounter :=
  let maxTicks := scenario.maxTicks.getD defaultMaxTicks
  if scenario.gremlins.isEmpty then .error .noGremlins
  else if maxTicks = 0 then .error .noTicks
  else match scenario.script.find? (maxTicks < ·.tick) with
    | some entry => .error (.lateAction entry maxTicks)
    | none => do
      let amounts ← readResources scenario.resources
      let fresh := new bestiary (scenario.seed.getD defaultSeed)
      let pool := amounts.foldl (fun pool entry => pool.set entry.1 entry.2) fresh.pool
      let s := { fresh with pool, maxTicks, script := scenario.script, source := scenario.source }
      scenario.gremlins.foldlM (fun s id => (s.spawn id).map (·.1)) s

def targets (s : Encounter) (target : String) : List InstanceId :=
  if target = "first" then s.board.targetable.take 1
  else if target = "all" then s.board.alive.map (·.id)
  else (s.board.targetable.filter fun id =>
    (s.board.get? id).any (·.template.id = target)).take 1

def warnIfNone (s : Encounter) (target : String) : Encounter :=
  if (s.targets target).isEmpty then s.notify (.noTarget target s.now) else s

/-- Lets the listeners know of a failed action; summons without end are no such failure. -/
def report (s : Encounter) (error : EncounterError) : Except EncounterError Encounter :=
  if error = .endlessSummons then .error error else .ok (s.notify (.failed error))

/-- Hits gremlins in order, those that are still alive when their turn comes, and lets the board
see the damage. A failure ends the action. -/
def hitEach (hit : Hit) (force : Option Force) :
    List InstanceId → Encounter → Except EncounterError Encounter
  | [], s => .ok s
  | id :: rest, s =>
    if (s.board.get? id).any (·.isAlive) then
      match s.applyHit id hit with
      | .ok (s, outcome) => hitEach hit force rest (s.observe (.damage force outcome.applied))
      | .error e => s.report e
    else hitEach hit force rest s

/-- Executes gremlins in order, and lets the board see every attempt. A failure ends the action. -/
def executeEach : List InstanceId → Encounter → Except EncounterError Encounter
  | [], s => .ok s
  | id :: rest, s =>
    let s := s.observe .executionAttempt
    match s.execute id with
    | .ok (s, _) => executeEach rest s
    | .error e => s.report e

def healEach (amount : Nat) : List InstanceId → Encounter → Except EncounterError Encounter
  | [], s => .ok s
  | id :: rest, s =>
    match s.heal id amount with
    | .ok s => healEach amount rest s
    | .error e => s.report e

def perform (s : Encounter) (action : ScriptedAction) : Except EncounterError Encounter :=
  let s := s.notify (.scripted action)
  match action with
  | .gain force amount => .ok (s.gain force amount).1
  | .spend force amount =>
    let (s, spent) := s.spend force amount
    .ok (if spent then s else s.notify (.unableToSpend amount force))
  | .hit target damage pierce force =>
    hitEach ⟨damage, pierce⟩ force (s.targets target) (s.warnIfNone target)
  | .execute target => executeEach (s.targets target) (s.warnIfNone target)
  | .heal target amount => healEach amount (s.targets target) (s.warnIfNone target)
  | .playCard => .ok (s.observe .cardPlayed)
  | .observe action => .ok (s.observe action)

def performAll : List ScriptedAction → Encounter → Except EncounterError Encounter
  | [], s => .ok s
  | action :: rest, s =>
    if s.clock.terminated then .ok s
    else match s.perform action with
      | .ok s => performAll rest s
      | .error e => .error e

def runScript (s : Encounter) (tick : Nat) : Except EncounterError Encounter :=
  performAll ((s.script.filter (·.tick = tick)).map (·.action)) s

def drive : Nat → Encounter → Except EncounterError Encounter
  | 0, s => .ok s
  | ticks + 1, s =>
    if s.clock.terminated then .ok s
    else match s.advance with
      | .ok s =>
        match s.runScript s.now.count with
        | .ok s => drive ticks s
        | .error e => .error e
      | .error e => .error e

def introduce (s : Encounter) : Encounter :=
  s.board.gremlins.foldl (fun s g => s.notify (.registered g.template.displayName g.id)) s

/-- Runs an encounter to its end: the board is empty or the last tick is past. What the script
lays down for tick zero comes before the first advance. -/
def finish (s : Encounter) : Except EncounterError Encounter := do
  let s ← s.introduce.runScript 0
  s.drive (s.maxTicks - s.now.count)

end Encounter

inductive Verdict where
  | cleared
  | timeout
deriving DecidableEq, Repr

structure RunResult where
  verdict : Verdict
  source : Option String
  events : Array TimedEvent
  ticks : Ticks
  survivors : List InstanceSummary
  resources : PoolSnapshot
  notices : Array Notice

namespace Encounter

def result (s : Encounter) : RunResult where
  verdict := if s.board.isEmpty then .cleared else .timeout
  source := s.source
  events := s.journal
  ticks := s.now
  survivors := s.board.gremlins.map (·.summary)
  resources := s.pool.snapshot
  notices := s.notices

def runOnce (s : Encounter) : Except EncounterError RunResult := s.finish.map result

def runOnceWith (s : Encounter) (generator : Generator) : Except EncounterError RunResult :=
  { s with generator }.runOnce

/-- Runs so many copies, each with a generator split off the given one. -/
def runWith (s : Encounter) : Nat → Generator → Except EncounterError (List RunResult)
  | 0, _ => .ok []
  | runs + 1, generator => do
    let (own, rest) := generator.split
    let first ← s.runOnceWith own
    let others ← s.runWith runs rest
    return first :: others

end Encounter

end Gremlin
