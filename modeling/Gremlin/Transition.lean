import Gremlin.Effect.Grammar

set_option autoImplicit false

/-! Transitions between moves, written `from>to:condition` with bars between the rules. -/

namespace Gremlin

open Gremlin.Text

inductive Condition where
  | afterTriggers (count : Nat)
  | afterTicks (count : Nat)
  /-- At or below this much of the full health. -/
  | atHealth (threshold : Percentage)
  /-- After the first firing. -/
  | automatic
deriving DecidableEq

inductive ConditionError where
  | unknown (given : String)
  | tooLarge
  /-- A count with a digit that is not an ASCII one. -/
  | foreignCount
  | foreignFraction
  | aboveFull (given : String)
deriving DecidableEq, Repr

def ConditionError.message : ConditionError → String
  | unknown given => s!"invalid transition condition {given}"
  | tooLarge => "number too large to fit in target type"
  | foreignCount => "invalid digit found in string"
  | foreignFraction => "invalid float literal"
  | aboveFull given => s!"health threshold above 100%: {given}"

namespace Condition

def isMet (condition : Condition) (triggers ticks : Nat) (health : Float) : Bool :=
  match condition with
  | afterTriggers count => count ≤ triggers
  | afterTicks count => count ≤ ticks
  | atHealth threshold => health ≤ threshold.fraction
  | automatic => 1 ≤ triggers

/-- How often a move with this condition fires before it is done; zero for no limit. -/
def triggerLimit : Condition → Nat
  | afterTriggers count => count
  | automatic => 1
  | afterTicks _ | atHealth _ => 0

def chars : Condition → List Char
  | afterTriggers count => "after_".toList ++ decimal count ++ "_triggers".toList
  | afterTicks count => "after_".toList ++ decimal count ++ "_ticks".toList
  | atHealth threshold => "at_".toList ++ Decimal.plain threshold.points ++ "_percent_hp".toList
  | automatic => "automatic".toList

def text (condition : Condition) : String := String.ofList condition.chars

/-- Reads a count of 32 bits that is known to consist of digits. Of a count that is too large before
its first foreign digit only the size is reported. -/
def readCount (digits : List Char) : Except ConditionError Nat :=
  match readDecimal? (digits.takeWhile Char.isDigit) with
  | none => .error .foreignCount
  | some n =>
    if wordBound ≤ n then .error .tooLarge
    else if digits.all Char.isDigit then .ok n
    else .error .foreignCount

/-- The digits between `after_` and a unit, which may be in the plural. -/
def countBefore? (unit : String) (cs : List Char) : Option (List Char) :=
  match dropStart? "after_".toList cs with
  | none => none
  | some rest =>
    let digits := rest.takeWhile isDecimalDigit
    let tail := rest.dropWhile isDecimalDigit
    if !digits.isEmpty && (tail = '_' :: unit.toList || tail = '_' :: (unit.toList ++ ['s'])) then
      some digits
    else none

def healthParts? (cs : List Char) : Option (List Char × List Char) :=
  let suffix := "_percent_hp".toList
  match dropStart? "at_".toList cs with
  | none => none
  | some rest =>
    if rest.drop (rest.length - suffix.length) = suffix then
      fractionParts? (rest.take (rest.length - suffix.length))
    else none

def readChars (cs : List Char) : Except ConditionError Condition :=
  if cs = "automatic".toList || cs = "cycle".toList then .ok .automatic
  else match countBefore? "trigger" cs with
  | some digits => (readCount digits).map .afterTriggers
  | none =>
    match countBefore? "tick" cs with
    | some digits => (readCount digits).map .afterTicks
    | none =>
      match healthParts? cs with
      | none => .error (.unknown (String.ofList cs))
      | some parts =>
        match readFraction? parts with
        | none => .error .foreignFraction
        | some points =>
          if 100.0 < points then .error (.aboveFull (String.ofList cs))
          else .ok (.atHealth (.ofPoints points))

def read (s : String) : Except ConditionError Condition := readChars s.toList

end Condition

structure Transition where
  next : Nat
  condition : Condition
deriving DecidableEq

structure TransitionRule where
  source : Nat
  transition : Transition
deriving DecidableEq

namespace TransitionRule

def chars (rule : TransitionRule) : List Char :=
  decimal rule.source ++ '>' :: (decimal rule.transition.next ++
    ':' :: rule.transition.condition.chars)

def listChars (rules : List TransitionRule) : List Char := ['|'].intercalate (rules.map chars)

def listText (rules : List TransitionRule) : String := String.ofList (listChars rules)

def isConditionChar (c : Char) : Bool := continuesIdentifier c || c = '.'

/-- A run of digits and the text after it and the blanks that follow. -/
def digitsThen (cs : List Char) : List Char × List Char :=
  (cs.takeWhile isDecimalDigit, trimStart (cs.dropWhile isDecimalDigit))

def readTrimmed? (cs : List Char) : Option TransitionRule :=
  let (source, afterSource) := digitsThen cs
  match afterSource with
  | '>' :: rest =>
    let (next, afterNext) := digitsThen (trimStart rest)
    match afterNext with
    | ':' :: rest =>
      let condition := trimStart rest
      if condition.isEmpty || !condition.all isConditionChar then none
      else
        match readBelow? longBound source, readBelow? longBound next,
            Condition.readChars condition with
        | some source, some next, .ok condition => some ⟨source, next, condition⟩
        | _, _, _ => none
    | _ => none
  | _ => none

def readRules (index : Nat) : List (List Char) → Except ReadError (List TransitionRule)
  | [] => .ok []
  | raw :: rest =>
    match readTrimmed? (trim raw) with
    | none => .error ⟨.invalidTransition, index, String.ofList (trim raw)⟩
    | some rule =>
      match readRules (index + 1) rest with
      | .error e => .error e
      | .ok rules => .ok (rule :: rules)

def readChars (cs : List Char) : Except ReadError (List TransitionRule) :=
  if (trim cs).isEmpty then .ok [] else readRules 0 ((trim cs).splitOn '|')

def readList (s : String) : Except ReadError (List TransitionRule) := readChars s.toList

def targeting (index : Nat) (rules : List TransitionRule) : List TransitionRule :=
  rules.filter (·.transition.next = index)

end TransitionRule

end Gremlin
