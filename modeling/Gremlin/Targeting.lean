import Gremlin.Name
import Gremlin.Text.Blank

set_option autoImplicit false

/-! When the player may target a gremlin, and where its summons join the board. -/

namespace Gremlin

inductive Protection where
  | targetable
  | never
  | whileOthersLive
  | whileSummonsLive
deriving DecidableEq, Repr

namespace Protection

def names : List (String × Protection) :=
  [("targetable", targetable), ("never", never),
    ("while_other_gremlins_exist", whileOthersLive), ("while_summons_alive", whileSummonsLive)]

def read (s : String) : Except UnknownName Protection :=
  match names.lookup s with
  | some protection => .ok protection
  | none => .error ⟨.protection, s⟩

/-- The protection of a record: its condition counts only for a gremlin that is not freely
targetable, and without one such a gremlin is never targetable. -/
def ofColumns (targetable : Bool) (condition : String) : Except UnknownName Protection :=
  let given := Text.trimmed condition
  if targetable then .ok .targetable
  else if given = "" then .ok .never
  else read given

end Protection

inductive SummonPosition where
  | top
  | bottom
deriving DecidableEq, Repr

namespace SummonPosition

def names : List (String × SummonPosition) := [("top", top), ("", bottom), ("bottom", bottom)]

def read (s : String) : Except UnknownName SummonPosition :=
  let given := Text.trimmed s
  match names.lookup given with
  | some position => .ok position
  | none => .error ⟨.summonPosition, given⟩

end SummonPosition

structure Targeting where
  protection : Protection
  summonPosition : SummonPosition
  /-- How many live summons a gremlin may have at once; none for no limit. -/
  summonCap : Option Nat
deriving DecidableEq, Repr

end Gremlin
