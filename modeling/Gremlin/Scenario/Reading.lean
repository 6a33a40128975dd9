import Gremlin.Document
import Gremlin.Scenario
import Gremlin.Text.Numeral

set_option autoImplicit false

namespace Gremlin

open Gremlin.Text (longBound wordBound)

/-- Reads a force by its name. A table whose only key is the name, with nothing under it, stands
for it too. -/
def Force.ofDocument (d : Document) : Except Misfit Force :=
  let named (name : String) : Except Misfit Force :=
    match Force.ofChars? name.toList with
    | some force => .ok force
    | none => d.misfit
  match d with
  | .text _ name => named name
  | .table _ [(name, .null _)] => named name
  | .table _ [(name, .table _ [])] => named name
  | d => d.misfit

namespace PlayerAction

def kinds : List String := ["damage", "execution_attempt", "adversary_killed", "card_played"]

def ofColumns (d : Document) (kind : String) (columns : List (String × Document)) :
    Except Misfit PlayerAction := do
  match kind with
  | "damage" =>
    let force ← Document.readColumnOr none columns "force" (Document.readOptional Force.ofDocument)
    let amount ← d.readColumn columns "amount" (Document.readNatural wordBound)
    return .damage force amount
  | "execution_attempt" => return .executionAttempt
  | "adversary_killed" => return .gremlinKilled
  | "card_played" => return .cardPlayed
  | _ => d.misfit

def columnNames : String → List String
  | "damage" => ["force", "amount"]
  | _ => []

/-- Reads an action: a table with its kind and what the kind needs, or a list that starts with the
kind and gives no more than it needs. -/
def ofDocument (numbered : Bool) (d : Document) : Except Misfit PlayerAction := do
  match d with
  | .list place (kind :: values) =>
    let kind ← kind.readName numbered kinds
    ofColumns d kind (← (Document.list place values).columns .message (columnNames kind))
  | .table _ columns =>
    let kind ← d.readColumn columns "kind" (Document.readName numbered kinds)
    ofColumns d kind columns
  | d => d.misfit

end PlayerAction

namespace ScriptedAction

def kinds : List String := ["gain", "spend", "hit", "execute", "heal", "play_card", "observe"]

def ofColumns (numbered : Bool) (d : Document) (kind : String)
    (columns : List (String × Document)) : Except Misfit ScriptedAction := do
  let force := d.readColumn columns "force" Force.ofDocument
  let target := Document.readColumnOr "first" columns "target" Document.readText
  let number (name : String) : Except Misfit Nat :=
    d.readColumn columns name (Document.readNatural wordBound)
  match kind with
  | "gain" => return .gain (← force) (← number "amount")
  | "spend" => return .spend (← force) (← number "amount")
  | "hit" =>
    let pierce ← Document.readColumnOr false columns "pierce" Document.readFlag
    let force ← Document.readColumnOr none columns "force" (Document.readOptional Force.ofDocument)
    return .hit (← target) (← number "damage") pierce force
  | "execute" => return .execute (← target)
  | "heal" => return .heal (← target) (← number "amount")
  | "play_card" => return .playCard
  | "observe" =>
    return .observe (← d.readColumn columns "observed" (PlayerAction.ofDocument numbered))
  | _ => d.misfit

end ScriptedAction

def ScriptEntry.ofDocument (numbered : Bool) (d : Document) : Except Misfit ScriptEntry := do
  match d with
  | .table _ columns =>
    let tick ← d.readColumn columns "tick" (Document.readNatural longBound)
    let kind ← d.readColumn columns "action" (Document.readName numbered ScriptedAction.kinds)
    return ⟨tick, ← ScriptedAction.ofColumns numbered d kind columns⟩
  | d => d.misfit

namespace Scenario

def columnNames : List String := ["seed", "max_ticks", "resources", "gremlins", "script"]

def readResources : Document → Except Misfit (List (String × Nat))
  | .table _ entries => do
    let amounts ← entries.mapM fun entry => do
      return (entry.1, ← entry.2.readNatural wordBound)
    return amounts.mergeSort fun a b => decide (a.1 ≤ b.1)
  | d => d.misfit

def ofDocument (medium : Medium) (d : Document) : Except Misfit Scenario := do
  let columns ← d.columns medium columnNames
  let long := Document.readOptional (Document.readNatural longBound)
  let seed ← Document.readColumnOr none columns "seed" long
  let maxTicks ← Document.readColumnOr none columns "max_ticks" long
  let resources ← Document.readColumnOr [] columns "resources" readResources
  let gremlins ← d.readColumn columns "gremlins" (Document.readList Document.readText)
  let entry := ScriptEntry.ofDocument (medium = .message)
  let script ← Document.readColumnOr [] columns "script" (Document.readList entry)
  return { seed, maxTicks, resources, gremlins, script }

end Scenario

end Gremlin
