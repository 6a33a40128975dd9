import Gremlin.Encounter.Death

set_option autoImplicit false

/-!
One tick: passive moves act, active moves fire, gremlins change moves, overlays run out, and the
dead are buried. Each phase goes over the gremlins that were on the board when it began.
-/

namespace Gremlin

namespace Encounter

def ifAlive (s : Encounter) (id : InstanceId)
    (act : Instance → Except EncounterError Encounter) : Except EncounterError Encounter :=
  match s.board.get? id with
  | some gremlin => if gremlin.isAlive then act gremlin else .ok s
  | none => .ok s

/-- Regenerates a gremlin's shields; if its move is passive, counts a trigger and does the move's
continuous effects. -/
def holdMove (s : Encounter) (id : InstanceId) : Except EncounterError Encounter :=
  s.ifAlive id fun gremlin =>
    let s := s.modify id (·.regenerate)
    match gremlin.passiveMove? with
    | some move =>
      (s.modify id (·.countTrigger)).applyEffects (some id) .passive
        (move.effects.filter (·.isContinuous))
    | none => .ok s

/-- Lets every gremlin hold its move, after all passive overlays are lifted. -/
def applyPassives (s : Encounter) : Except EncounterError Encounter :=
  let s := { s with
    pool := s.pool.releaseAllPassive
    pressure := s.pressure.releaseAllPassive }
  s.board.ids.foldlM holdMove s

/-- A gremlin grows older and fires its move if that is due. -/
def fireMove (s : Encounter) (id : InstanceId) : Except EncounterError Encounter :=
  s.ifAlive id fun gremlin =>
    let s := s.modify id (·.age)
    match gremlin.currentMove? with
    | some move =>
      if gremlin.age.fires then
        ((s.modify id (·.countTrigger)).record (.moveFired id gremlin.move)).applyEffects (some id)
          (.ticks move.interval) move.effects
      else .ok s
    | none => .ok s

def fireMoves (s : Encounter) : Except EncounterError Encounter := s.board.ids.foldlM fireMove s

def changeMove (s : Encounter) (id : InstanceId) : Except EncounterError Encounter :=
  s.ifAlive id fun gremlin =>
    let (next, gremlin, generator) := gremlin.nextMove s.generator
    let s := { s.modify id (fun _ => gremlin) with generator }
    match next with
    | some index => s.enterMove id index
    | none => .ok s

def runTransitions (s : Encounter) : Except EncounterError Encounter :=
  s.board.ids.foldlM changeMove s

def expire (s : Encounter) : Encounter :=
  { s with pool := s.pool.expire, pressure := s.pressure.expire }

def advance (s : Encounter) : Except EncounterError Encounter :=
  match s.clock.advance? with
  | none => .error (.ended s.now)
  | some clock => do
    let s := { s with clock }.record (.tick clock.now)
    let s ← s.applyPassives
    let s ← s.fireMoves
    let s ← s.runTransitions
    s.expire.pruneDead

/-- Runs so many ticks, and tells what kept it from running all of them. -/
def advanceBy (s : Encounter) : Nat → Encounter × Option EncounterError
  | 0 => (s, none)
  | ticks + 1 =>
    match s.advance with
    | .ok s => s.advanceBy ticks
    | .error e => (s, some e)

end Encounter

end Gremlin
