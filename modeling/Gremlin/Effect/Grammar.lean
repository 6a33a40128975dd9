import Gremlin.Effect.Keyword
import Gremlin.ReadError
import Gremlin.Text.Blank
import Gremlin.Text.DecimalDigit
import Gremlin.Text.Identifier
import Gremlin.Text.Numeral
import Gremlin.Text.Split

set_option autoImplicit false

/-! The written form of effects: `keyword=value` clauses and bare flags, separated by commas. -/

namespace Gremlin

open Gremlin.Text

def SummonSpec.chars : SummonSpec → List Char
  | named id => id.toList
  | ofSize size => "random_".toList ++ size.name.toList

def SummonSpec.text (spec : SummonSpec) : String := String.ofList spec.chars

/-- Reads what a summon creates: `random_` and a size, or else an identifier. -/
def SummonSpec.read? (cs : List Char) : Option SummonSpec :=
  match (dropStart? "random_".toList cs).bind Size.ofChars? with
  | some size => some (.ofSize size)
  | none => if isIdentifier cs then some (.named (String.ofList cs)) else none

/-- A run of digits, with a fraction of at least one digit if there is a point. -/
def fractionParts? (cs : List Char) : Option (List Char × List Char) :=
  let whole := cs.takeWhile isDecimalDigit
  match whole, cs.dropWhile isDecimalDigit with
  | [], _ => none
  | whole, [] => some (whole, [])
  | whole, '.' :: fraction =>
    if fraction.isEmpty || !fraction.all isDecimalDigit then none else some (whole, fraction)
  | _, _ => none

/-- The double nearest to a written number; none if a digit is not an ASCII one. -/
def readFraction? (parts : List Char × List Char) : Option Float :=
  (readDecimal? (parts.1 ++ parts.2)).map fun digits => Decimal.ofDigits digits parts.2.length

namespace Magnitude

def chars : Magnitude → List Char
  | amount n => decimal n
  | percent points => Decimal.plain points ++ ['%']

def readAmount? (cs : List Char) : Option Nat := readBelow? wordBound cs

def readPercent? (cs : List Char) : Option Float :=
  match cs.getLast? with
  | some '%' =>
    ((fractionParts? cs.dropLast).bind readFraction?).filter fun points => points ≤ 100.0
  | _ => none

def read? (cs : List Char) : Option Magnitude :=
  match readAmount? cs with
  | some n => some (.amount n)
  | none => (readPercent? cs).map .percent

end Magnitude

inductive ValueShape where
  | flag (effect : Effect)
  | amount (effect : Nat → Effect)
  | magnitude (effect : Magnitude → Effect)
  | spec (effect : SummonSpec → Effect)

def Keyword.shape : Keyword → ValueShape
  | drain forces => .amount (.drain forces)
  | decay forces => .amount (.decay forces)
  | hardCap forces => .amount (.hardCap forces)
  | softCap forces => .amount (.softCap forces)
  | totalCap => .amount .totalCap
  | summon => .spec .summon
  | gainArmor scope => .amount (.gainArmor scope)
  | gainShields scope => .amount (.gainShields scope)
  | raiseReflect => .magnitude .raiseReflect
  | amplifyDrains => .amount .amplifyDrains
  | forceDiscard => .amount .forceDiscard
  | raiseCardCost => .amount .raiseCardCost
  | limitHand => .amount .limitHand
  | lockDraw => .flag .lockDraw
  | shuffleHand => .flag .shuffleHand
  | copyLastCard => .flag .copyLastCard
  | removeConstraints => .flag .removeConstraints
  | reinstateConstraints => .flag .reinstateConstraints

/-- Reads the value of a keyword. A flag has none, everything else needs one. -/
def ValueShape.read (shape : ValueShape) (value : Option (List Char)) : Except ReadCause Effect :=
  let orInvalid (effect : Option Effect) : Except ReadCause Effect :=
    match effect with
    | some effect => .ok effect
    | none => .error .invalidMagnitude
  match shape, value with
  | flag effect, none => .ok effect
  | flag _, some _ => .error .unexpectedValue
  | _, none => .error .missingValue
  | amount effect, some cs => orInvalid ((Magnitude.readAmount? cs).map effect)
  | magnitude effect, some cs => orInvalid ((Magnitude.read? cs).map effect)
  | spec effect, some cs => orInvalid ((SummonSpec.read? cs).map effect)

namespace Effect

def valueChars? : Effect → Option (List Char)
  | summon spec => some spec.chars
  | effect => effect.magnitude?.map Magnitude.chars

def chars (effect : Effect) : List Char :=
  effect.keyword.name.toList ++
    match effect.valueChars? with
    | some value => '=' :: value
    | none => []

def text (effect : Effect) : String := String.ofList effect.chars

def keyAndValue (cs : List Char) : List Char × Option (List Char) :=
  match splitFirst '=' cs with
  | some (key, value) => (trim key, some (trim value))
  | none => (cs, none)

def readTrimmed (cs : List Char) : Except ReadCause Effect :=
  let (key, value) := keyAndValue cs
  if key.isEmpty || value.any (·.isEmpty) then .error .malformedClause
  else
    match Keyword.ofChars? key with
    | none => .error .unknownEffect
    | some keyword => keyword.shape.read value

def readClause (phase : Nat) (clause : List Char) : Except ReadError Effect :=
  match readTrimmed (trim clause) with
  | .ok effect => .ok effect
  | .error cause => .error ⟨cause, phase, String.ofList (trim clause)⟩

def readClauses (phase : Nat) : List (List Char) → Except ReadError (List Effect)
  | [] => .ok []
  | clause :: rest =>
    match readClause phase clause with
    | .error e => .error e
    | .ok effect =>
      match readClauses phase rest with
      | .error e => .error e
      | .ok effects => .ok (effect :: effects)

def readList (phase : Nat) (cs : List Char) : Except ReadError (List Effect) :=
  if (trim cs).isEmpty then .ok [] else readClauses phase (cs.splitOn ',')

end Effect

end Gremlin
