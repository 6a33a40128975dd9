import Gremlin.Force
import Gremlin.ReadError
import Gremlin.Text.Blank
import Gremlin.Text.DecimalDigit
import Gremlin.Text.Numeral
import Gremlin.Text.Split

set_option autoImplicit false

/-!
Decision tables of adaptive gremlins, written `counter>=threshold:move` with bars between the
rules.
-/

namespace Gremlin

open Gremlin.Text

inductive Counter where
  | damage (force : Force)
  | totalDamage
  | executionAttempts
  | kills
  | cardsPlayed
deriving DecidableEq, Repr

namespace Counter

def name : Counter → String
  | damage force => "damage_" ++ force.name
  | totalDamage => "damage_total"
  | executionAttempts => "execution_attempts"
  | kills => "gremlin_kills"
  | cardsPlayed => "cards_played"

def all : List Counter :=
  [totalDamage, executionAttempts, kills, cardsPlayed] ++ Force.all.map damage

def ofChars? (cs : List Char) : Option Counter := named? all name cs

/-- Reads a counter name. After `damage_` the fault is that of an unknown force. -/
def read (s : String) : Except UnknownName Counter :=
  match ofChars? s.toList with
  | some counter => .ok counter
  | none =>
    match dropStart? "damage_".toList s.toList with
    | some force => .error ⟨.force, String.ofList force⟩
    | none => .error ⟨.counter, s⟩

theorem ofChars?_name : ∀ counter ∈ all, ofChars? counter.name.toList = some counter := by
  decide +kernel

end Counter

structure AdaptiveRule where
  counter : Counter
  threshold : Nat
  move : Nat
deriving DecidableEq, Repr

/-- An ordered decision table and how many ticks lie between two looks at it. -/
structure AdaptiveTable where
  interval : Nat
  rules : List AdaptiveRule
deriving DecidableEq, Repr

namespace AdaptiveRule

def isMet (rule : AdaptiveRule) (count : Counter → Nat) : Bool :=
  rule.threshold ≤ count rule.counter

def chars (rule : AdaptiveRule) : List Char :=
  rule.counter.name.toList ++ '>' :: '=' :: (decimal rule.threshold ++ ':' :: decimal rule.move)

def isCounterChar (c : Char) : Bool := c.isLower || c = '_'

def readTrimmed? (cs : List Char) : Option AdaptiveRule :=
  let counter := cs.takeWhile isCounterChar
  match trimStart (cs.dropWhile isCounterChar) with
  | '>' :: '=' :: rest =>
    let rest := trimStart rest
    let threshold := rest.takeWhile isDecimalDigit
    match trimStart (rest.dropWhile isDecimalDigit) with
    | ':' :: rest =>
      match Counter.ofChars? counter, readBelow? longBound threshold,
          readBelow? longBound (trimStart rest) with
      | some counter, some threshold, some move => some ⟨counter, threshold, move⟩
      | _, _, _ => none
    | _ => none
  | _ => none

def readRules (index : Nat) : List (List Char) → Except ReadError (List AdaptiveRule)
  | [] => .ok []
  | raw :: rest =>
    match readTrimmed? (trim raw) with
    | none => .error ⟨.invalidAdaptiveRule, index, String.ofList (trim raw)⟩
    | some rule =>
      match readRules (index + 1) rest with
      | .error e => .error e
      | .ok rules => .ok (rule :: rules)

end AdaptiveRule

namespace AdaptiveTable

def chars (table : AdaptiveTable) : List Char :=
  ['|'].intercalate (table.rules.map AdaptiveRule.chars)

def text (table : AdaptiveTable) : String := String.ofList table.chars

def readChars (interval : Nat) (cs : List Char) : Except ReadError AdaptiveTable :=
  if (trim cs).isEmpty then .ok ⟨interval, []⟩
  else match AdaptiveRule.readRules 0 ((trim cs).splitOn '|') with
    | .error e => .error e
    | .ok rules => .ok ⟨interval, rules⟩

def read (interval : Nat) (s : String) : Except ReadError AdaptiveTable :=
  readChars interval s.toList

/-- The move of the first rule that is met, or else the opening move. -/
def select (table : AdaptiveTable) (count : Counter → Nat) : Nat :=
  match table.rules.find? (·.isMet count) with
  | some rule => rule.move
  | none => 0

end AdaptiveTable

end Gremlin
