import Gremlin.Board
import Gremlin.Encounter.Error
import Gremlin.Pool.Snapshot
import Gremlin.Schedule

set_option autoImplicit false

/-! One fight: the clock, the player's resources, the board, and a journal of what happened. -/

namespace Gremlin

open Gremlin.Random (Generator)

def defaultMaxTicks : Nat := 600

structure Encounter where
  clock : Clock := {}
  pool : Pool := {}
  pressure : Pressure := {}
  board : Board := {}
  bestiary : Bestiary
  generator : Generator
  /-- What happened so far, the oldest first. -/
  journal : Array TimedEvent := #[]
  notices : Array Notice := #[]
  maxTicks : Nat := defaultMaxTicks
  script : List ScriptEntry := []
  source : Option String := none
  /-- How many summons may open inside one another. -/
  nesting : Nat := 2000

namespace Encounter

def defaultSeed : Nat := 0x3a3f7af8085da7a2

def new (bestiary : Bestiary) (seed : Nat) : Encounter where
  bestiary
  generator := .ofSeed seed

def now (s : Encounter) : Ticks := s.clock.now

def record (s : Encounter) (event : Event) : Encounter :=
  { s with journal := s.journal.push ⟨s.now, event⟩ }

def notify (s : Encounter) (notice : Notice) : Encounter :=
  { s with notices := s.notices.push notice }

/-- Forgets what was told before there was a listener. -/
def listen (s : Encounter) : Encounter := { s with notices := #[] }

def modify (s : Encounter) (id : InstanceId) (change : Instance → Instance) : Encounter :=
  { s with board := s.board.modify id change }

def observe (s : Encounter) (action : PlayerAction) : Encounter :=
  { s with board := s.board.map (·.observe action) }

def releasePassive (s : Encounter) (id : InstanceId) : Encounter :=
  { s with pool := s.pool.releasePassive id, pressure := s.pressure.releasePassive id }

/-- Adds resources, and tells how much stuck under the caps. -/
def gain (s : Encounter) (force : Force) (amount : Nat) : Encounter × Nat :=
  let (pool, gained) := s.pool.gain force amount
  ({ s with pool }, gained)

def spend (s : Encounter) (force : Force) (amount : Nat) : Encounter × Bool :=
  let (pool, spent) := s.pool.spend force amount
  ({ s with pool }, spent)

def terminate (s : Encounter) : Encounter :=
  if s.clock.terminated then s
  else
    let s := { s with clock := s.clock.terminate }
    (s.record .terminated).notify (.terminated s.now)

end Encounter

end Gremlin
