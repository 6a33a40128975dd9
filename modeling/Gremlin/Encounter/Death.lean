import Gremlin.Encounter.Effects

set_option autoImplicit false

/-! Deaths, and the hits and executes that bring them about. -/

namespace Gremlin

namespace Encounter

/-- Does the death effects of a gremlin, takes it off the board, and lets the others know. -/
def bury (s : Encounter) (id : InstanceId) : Except EncounterError Encounter :=
  match s.board.get? id with
  | none => .ok s
  | some gremlin => do
    let s ← s.applyEffects (some id) .permanent gremlin.template.onDeath
    let s := { s with board := s.board.remove id }.releasePassive id
    let s := (s.observe .gremlinKilled).record (.died id gremlin.template.id)
    return s.notify (.died gremlin.summary s.now)

/-- Buries everyone without health. An empty board ends the fight. -/
def pruneDead (s : Encounter) : Except EncounterError Encounter := do
  let s ← s.board.dead.foldlM bury s
  return if s.board.isEmpty then s.terminate else s

/-- Hits a gremlin; a killing hit buries it right away. -/
def applyHit (s : Encounter) (id : InstanceId) (hit : Hit) :
    Except EncounterError (Encounter × HitOutcome) :=
  match s.board.get? id with
  | none => .error (.unknownInstance id)
  | some gremlin => do
    let (gremlin, outcome) := gremlin.applyHit hit
    let s := (s.modify id fun _ => gremlin).record (.hit id outcome)
    let s ← if outcome.killed then s.pruneDead else pure s
    return (s, outcome)

def execute (s : Encounter) (id : InstanceId) : Except EncounterError (Encounter × Bool) :=
  match s.board.get? id with
  | none => .error (.unknownInstance id)
  | some gremlin => do
    let (gremlin, landed) := gremlin.execute
    let s := (s.modify id fun _ => gremlin).record (.executed id landed)
    let s ← if landed then s.pruneDead else pure s
    return (s, landed)

def heal (s : Encounter) (id : InstanceId) (amount : Nat) : Except EncounterError Encounter :=
  match s.board.get? id with
  | none => .error (.unknownInstance id)
  | some _ => .ok (s.modify id (·.heal amount))

end Encounter

end Gremlin
