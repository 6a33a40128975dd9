import Gremlin.Document
import Gremlin.Record
import Gremlin.Text.Numeral

set_option autoImplicit false

/-!
Records as data files give them: a table of columns, or a list of the first columns' values. A
missing column is blank and an unknown one does not count.
-/

namespace Gremlin

open Gremlin.Text (wordBound)

namespace Record

def columnNames : List String :=
  ["template_id", "display_name", "description", "archetype", "size_category", "max_health",
    "max_armor", "max_shields", "shield_regen", "shield_regen_max", "has_barrier", "barrier_count",
    "damage_cap", "reflect_percent", "execute_immunity_threshold", "can_be_targeted",
    "target_protection_condition", "summon_position", "summon_cap", "moves", "move_pattern",
    "move_transitions", "move_weights", "adaptive_rules", "adaptive_check_ticks", "on_death"]

def setColumn (record : Record) (name : String) (d : Document) : Except Misfit Record :=
  let text := d.readText
  let flag := d.readFlag
  let number := d.readNatural wordBound
  match name with
  | "template_id" => text.map ({ record with templateId := · })
  | "display_name" => (d.readOptional Document.readText).map ({ record with displayName := · })
  | "description" => text.map ({ record with description := · })
  | "archetype" => text.map ({ record with archetype := · })
  | "size_category" => text.map ({ record with sizeCategory := · })
  | "max_health" => number.map ({ record with maxHealth := · })
  | "max_armor" => number.map ({ record with maxArmor := · })
  | "max_shields" => number.map ({ record with maxShields := · })
  | "shield_regen" => number.map ({ record with shieldRegen := · })
  | "shield_regen_max" => number.map ({ record with shieldRegenMax := · })
  | "has_barrier" => flag.map ({ record with hasBarrier := · })
  | "barrier_count" => number.map ({ record with barrierCount := · })
  | "damage_cap" => number.map ({ record with damageCap := · })
  | "reflect_percent" => number.map ({ record with reflectPercent := · })
  | "execute_immunity_threshold" => number.map ({ record with executeImmunityThreshold := · })
  | "can_be_targeted" => flag.map ({ record with canBeTargeted := · })
  | "target_protection_condition" => text.map ({ record with targetProtectionCondition := · })
  | "summon_position" => text.map ({ record with summonPosition := · })
  | "summon_cap" => number.map ({ record with summonCap := · })
  | "moves" => text.map ({ record with moves := · })
  | "move_pattern" => text.map ({ record with movePattern := · })
  | "move_transitions" => text.map ({ record with moveTransitions := · })
  | "move_weights" => text.map ({ record with moveWeights := · })
  | "adaptive_rules" => text.map ({ record with adaptiveRules := · })
  | "adaptive_check_ticks" => number.map ({ record with adaptiveCheckTicks := · })
  | "on_death" => text.map ({ record with onDeath := · })
  | _ => .ok record

/-- Reads a record. The first column that does not fit is reported. -/
def ofDocument (medium : Medium) (d : Document) : Except Misfit Record := do
  let columns ← d.columns medium columnNames
  columns.foldlM (fun record column => record.setColumn column.1 column.2) {}

def listOfDocument (d : Document) : Except Misfit (List Record) := do
  let columns ← d.columns .file ["gremlin"]
  Document.readColumnOr [] columns "gremlin" (Document.readList (ofDocument .file))

end Record

end Gremlin
