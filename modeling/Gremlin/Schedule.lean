import Gremlin.Amounts
import Gremlin.Instance.Basic
import Gremlin.Random.Generator

set_option autoImplicit false

/-!
Which move a gremlin is in next. Deciding is all that happens here; entering the move is the
encounter's.
-/

namespace Gremlin

open Gremlin.Random (Generator)

namespace Schedule

/-- The weight of a move: one if no weights are given, and none beyond those that are. -/
def weight (weights : List Nat) (index : Nat) : Nat :=
  if weights.isEmpty then 1 else weights[index]?.getD 0

def candidates (current count : Nat) : List Nat := (List.range count).filter (· ≠ current)

/-- The candidate a roll falls on when each takes up as much of the line as its weight; the last
one if the roll is beyond the line. -/
def atRoll (weightOf : Nat → Nat) : Nat → List Nat → Nat
  | _, [] => 0
  | _, [last] => last
  | roll, candidate :: rest =>
    if roll < weightOf candidate then candidate
    else atRoll weightOf (roll - weightOf candidate) rest

/-- Draws the move that follows: by weight, or evenly if no candidate has any. A lone move follows
itself without a draw. -/
def weightedPick (weights : List Nat) (current count : Nat) (g : Generator) : Nat × Generator :=
  if count ≤ 1 then (0, g)
  else
    let candidates := candidates current count
    let total := (candidates.map (weight weights)).foldl (· + ·) 0
    if total = 0 then
      let drawn := g.below candidates.length
      (candidates[drawn.1]?.getD 0, drawn.2)
    else
      let drawn := g.belowLong total
      (atRoll (weight weights) drawn.1 candidates, drawn.2)

end Schedule

namespace Instance

def fires (gremlin : Instance) : Bool :=
  match gremlin.currentMove? with
  | some move => !move.isPassive && gremlin.ticksInMove % move.interval == 0
  | none => false

def moveIsComplete (gremlin : Instance) : Bool :=
  gremlin.currentMove?.any fun move =>
    move.isComplete gremlin.currentTriggers gremlin.ticksInMove gremlin.health.fraction

def explicitNext? (gremlin : Instance) : Option Nat :=
  (gremlin.currentMove?.bind (·.transition)).map (·.next)

/-- The last move after the opening one whose threshold the health has reached, or the opening
one. -/
def moveForHealth (gremlin : Instance) : Nat :=
  let reached := (List.range gremlin.template.moves.length).filter fun k =>
    k != 0 && gremlin.template.thresholds[k]?.any fun threshold =>
      gremlin.health.fraction ≤ threshold.fraction
  reached.getLast?.getD 0

def checkIsDue (gremlin : Instance) (table : AdaptiveTable) : Bool :=
  table.interval != 0 && gremlin.ticksAlive != 0 && gremlin.ticksAlive % table.interval == 0

/-- The move to switch to, if any. A look at the decision table uses up what was observed, and a
random successor uses up draws. -/
def nextMove (gremlin : Instance) (g : Generator) : Option Nat × Instance × Generator :=
  let count := gremlin.template.moves.length
  if count = 0 then (none, gremlin, g)
  else match gremlin.template.pattern with
    | .single => (none, gremlin, g)
    | .sequence =>
      let next := gremlin.explicitNext?.getD (gremlin.move + 1)
      (if gremlin.moveIsComplete && decide (next < count ∧ next ≠ gremlin.move) then some next
        else none, gremlin, g)
    | .cycle =>
      (if gremlin.moveIsComplete then
          some (gremlin.explicitNext?.getD ((gremlin.move + 1) % count))
        else none, gremlin, g)
    | .random =>
      if gremlin.moveIsComplete then
        match gremlin.explicitNext? with
        | some next => (some next, gremlin, g)
        | none =>
          let drawn := Schedule.weightedPick gremlin.template.weights gremlin.move count g
          (some drawn.1, gremlin, drawn.2)
      else (none, gremlin, g)
    | .byHealth =>
      let target := gremlin.moveForHealth
      (if gremlin.move < target then some target else none, gremlin, g)
    | .adaptive =>
      match gremlin.template.adaptive with
      | none => (none, gremlin, g)
      | some table =>
        if gremlin.checkIsDue table then
          let selected := table.select gremlin.observed.count
          (if selected < count ∧ selected ≠ gremlin.move then some selected else none,
            { gremlin with observed := {} }, g)
        else (none, gremlin, g)

end Instance

end Gremlin
