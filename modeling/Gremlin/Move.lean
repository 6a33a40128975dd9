import Gremlin.Effect.Grammar
import Gremlin.Transition

set_option autoImplicit false

/-!
Moves: the phases of a gremlin's behaviour, written as `ticks=<interval>` followed by effects, one
phase between bars.
-/

namespace Gremlin

open Gremlin.Text

structure Move where
  index : Nat
  /-- Ticks between firings; a move without any is passive. -/
  interval : Nat
  /-- How often the move fires before it is done; zero for no limit. -/
  triggerLimit : Nat
  effects : List Effect
  transition : Option Transition
deriving DecidableEq

namespace Move

def isPassive (move : Move) : Bool := move.interval == 0

/-- Whether a move has run its course, given how often it fired, how long it has been held, and
how much health is left. A transition decides on its own; without one the move is done once it has
fired as often as its limit. -/
def isComplete (move : Move) (triggers ticks : Nat) (health : Float) : Bool :=
  match move.transition with
  | some transition => transition.condition.isMet triggers ticks health
  | none => move.triggerLimit != 0 && decide (move.triggerLimit ≤ triggers)

def chars (move : Move) : List Char :=
  "ticks=".toList ++ decimal move.interval ++ move.effects.flatMap fun effect => ',' :: effect.chars

def text (move : Move) : String := String.ofList move.chars

def listChars (moves : List Move) : List Char := ['|'].intercalate (moves.map chars)

def listText (moves : List Move) : String := String.ofList (listChars moves)

def readInterval (phase : Nat) (clause : List Char) : Except ReadError Nat :=
  let first := trim clause
  let fault (cause : ReadCause) : ReadError := ⟨cause, phase, String.ofList first⟩
  match splitFirst '=' first with
  | none => .error (fault .missingTicks)
  | some (key, value) =>
    if trim key ≠ "ticks".toList then .error (fault .missingTicks)
    else match readBelow? wordBound (trim value) with
      | none => .error (fault .invalidMagnitude)
      | some interval => .ok interval

def readPhase (phase : Nat) (segment : List Char) : Except ReadError Move :=
  let clauses := segment.splitOn ','
  match readInterval phase (clauses.headD []) with
  | .error e => .error e
  | .ok interval =>
    match Effect.readClauses phase (clauses.drop 1) with
    | .error e => .error e
    | .ok effects => .ok ⟨phase, interval, 0, effects, none⟩

/-- Reads phases in order, counted from `phase`; the first faulty one is reported. -/
def readPhases (phase : Nat) : List (List Char) → Except ReadError (List Move)
  | [] => .ok []
  | segment :: rest =>
    match readPhase phase segment with
    | .error e => .error e
    | .ok move =>
      match readPhases (phase + 1) rest with
      | .error e => .error e
      | .ok moves => .ok (move :: moves)

def readChars (cs : List Char) : Except ReadError (List Move) :=
  if (trim cs).isEmpty then .ok [] else readPhases 0 ((trim cs).splitOn '|')

def readList (s : String) : Except ReadError (List Move) := readChars s.toList

end Move

end Gremlin
