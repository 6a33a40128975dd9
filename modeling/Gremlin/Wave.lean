import Gremlin.Bestiary

set_option autoImplicit false

namespace Gremlin

open Gremlin.Text (quoted)

structure Wave where
  waveId : String
  displayName : String
  act : Nat
  difficulty : Nat
  difficultyTier : String := ""
  archetype : String := ""
  strategyHint : String := ""
  gremlins : List String
  isBoss : Bool := false
deriving DecidableEq, Repr

inductive WaveError where
  | empty (waveId : String)
  | unknownGremlin (waveId gremlin : String)
  | duplicate (waveId : String)
deriving DecidableEq, Repr

def WaveError.message : WaveError → String
  | empty waveId => s!"wave {quoted waveId} has no gremlins"
  | unknownGremlin waveId gremlin =>
    s!"wave {quoted waveId} references unknown gremlin {quoted gremlin}"
  | duplicate waveId => s!"duplicate wave id {quoted waveId}"

namespace Wave

def text (wave : Wave) : String :=
  s!"{wave.waveId} \"{wave.displayName}\" (act {wave.act}, difficulty {wave.difficulty})"

/-- The faults of a wave on its own: no gremlins, or gremlins that are in no template. -/
def ownErrors (bestiary : Bestiary) (wave : Wave) : List WaveError :=
  (if wave.gremlins.isEmpty then [.empty wave.waveId] else []) ++
    (wave.gremlins.filter (!bestiary.contains ·)).map (.unknownGremlin wave.waveId)

/-- The faults of waves in order, after those with the given ids. -/
def errorsAfter (bestiary : Bestiary) : List String → List Wave → List WaveError
  | _, [] => []
  | seen, wave :: rest =>
    (if wave.waveId ∈ seen then [.duplicate wave.waveId] else []) ++ wave.ownErrors bestiary ++
      errorsAfter bestiary (wave.waveId :: seen) rest

def errors (bestiary : Bestiary) (waves : List Wave) : List WaveError :=
  errorsAfter bestiary [] waves

end Wave

end Gremlin
