import Gremlin.Instance.Hit

set_option autoImplicit false

/-!
The board: every gremlin from top to bottom. Their order changes only by gremlins joining at
either end and leaving from anywhere.
-/

namespace Gremlin

/-- The gremlins from top to bottom, and the number of the next one to join. -/
structure Board where
  gremlins : List Instance := []
  next : Nat := 0

namespace Board

def ids (board : Board) : List InstanceId := board.gremlins.map (·.id)

def get? (board : Board) (id : InstanceId) : Option Instance :=
  board.gremlins.find? (·.id = id)

def modify (board : Board) (id : InstanceId) (change : Instance → Instance) : Board :=
  { board with gremlins := board.gremlins.map fun g => if g.id = id then change g else g }

def map (board : Board) (change : Instance → Instance) : Board :=
  { board with gremlins := board.gremlins.map change }

def remove (board : Board) (id : InstanceId) : Board :=
  { board with gremlins := board.gremlins.filter (·.id ≠ id) }

def spawn (board : Board) (template : Template) (now : Ticks) (position : SummonPosition)
    (summoner : Option InstanceId) : Board × InstanceId :=
  let id : InstanceId := ⟨board.next⟩
  let gremlin := Instance.spawn id template now summoner
  let gremlins := match position with
    | .top => gremlin :: board.gremlins
    | .bottom => board.gremlins ++ [gremlin]
  (⟨gremlins, board.next + 1⟩, id)

def isEmpty (board : Board) : Bool := board.gremlins.isEmpty

def alive (board : Board) : List Instance := board.gremlins.filter (·.isAlive)

def liveSummons (board : Board) (summoner : InstanceId) : Nat :=
  (board.alive.filter fun g => g.summoner = some summoner).length

/-- Whether a gremlin is on the board and below its cap of live summons. -/
def canSummon (board : Board) (summoner : InstanceId) : Bool :=
  match board.get? summoner with
  | some gremlin =>
    match gremlin.template.targeting.summonCap with
    | some cap => board.liveSummons summoner < cap
    | none => true
  | none => false

/-- Whether the player may pick a gremlin as a direct target. -/
def isTargetable (board : Board) (id : InstanceId) : Bool :=
  match board.get? id with
  | some gremlin =>
    gremlin.isAlive &&
      match gremlin.template.targeting.protection with
      | .targetable => true
      | .never => false
      | .whileOthersLive => !board.alive.any (·.id ≠ id)
      | .whileSummonsLive => board.liveSummons id == 0
  | none => false

def targetable (board : Board) : List InstanceId := board.ids.filter board.isTargetable

def dead (board : Board) : List InstanceId := (board.gremlins.filter (!·.isAlive)).map (·.id)

def ofTemplate (board : Board) (templateId : String) : List Instance :=
  board.gremlins.filter (·.template.id = templateId)

def ofSize (board : Board) (size : Size) : List Instance :=
  board.gremlins.filter (·.template.size = size)

/-- Hits every gremlin from top to bottom, and tells what became of each hit. -/
def hitAll (board : Board) (hit : Hit) : Board × List HitOutcome :=
  let struck := board.gremlins.map (·.applyHit hit)
  ({ board with gremlins := struck.map (·.1) }, struck.map (·.2))

end Board

end Gremlin
