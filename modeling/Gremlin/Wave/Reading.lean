import Gremlin.Document
import Gremlin.Text.Numeral
import Gremlin.Wave

set_option autoImplicit false

namespace Gremlin

open Gremlin.Text (wordBound)

namespace Wave

def columnNames : List String :=
  ["wave_id", "display_name", "act", "difficulty", "difficulty_tier", "archetype", "strategy_hint",
    "gremlins", "is_boss"]

/-- Reads a wave. The tier, archetype, hint and boss mark may be missing, nothing else. -/
def ofDocument (medium : Medium) (d : Document) : Except Misfit Wave := do
  let columns ← d.columns medium columnNames
  let waveId ← d.readColumn columns "wave_id" Document.readText
  let displayName ← d.readColumn columns "display_name" Document.readText
  let act ← d.readColumn columns "act" (Document.readNatural wordBound)
  let difficulty ← d.readColumn columns "difficulty" (Document.readNatural wordBound)
  let difficultyTier ← Document.readColumnOr "" columns "difficulty_tier" Document.readText
  let archetype ← Document.readColumnOr "" columns "archetype" Document.readText
  let strategyHint ← Document.readColumnOr "" columns "strategy_hint" Document.readText
  let gremlins ← d.readColumn columns "gremlins" (Document.readList Document.readText)
  let isBoss ← Document.readColumnOr false columns "is_boss" Document.readFlag
  return { waveId, displayName, act, difficulty, difficultyTier, archetype, strategyHint, gremlins,
           isBoss }

def listOfDocument (d : Document) : Except Misfit (List Wave) := do
  let columns ← d.columns .file ["wave"]
  Document.readColumnOr [] columns "wave" (Document.readList (ofDocument .file))

end Wave

end Gremlin
