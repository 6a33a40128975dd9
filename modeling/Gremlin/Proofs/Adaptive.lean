import Gremlin.Clock
import Gremlin.Observation
import Gremlin.Proofs.Bestiary
import Mathlib.Algebra.Order.Ring.Nat

set_option autoImplicit false

/-!
Decision tables. What is counted of the player's actions is their sum, a table gives the move of its
first rule that the counts satisfy, and that of a loaded template is looked at from time to time and
names moves that exist.
-/

namespace Gremlin

/-- How much an action adds to a counter. -/
def Counter.worth : Counter → PlayerAction → Nat
  | .damage force, .damage (some given) amount => if given = force then amount else 0
  | .totalDamage, .damage _ amount => amount
  | .executionAttempts, .executionAttempt => 1
  | .kills, .gremlinKilled => 1
  | .cardsPlayed, .cardPlayed => 1
  | _, _ => 0

/-- What some actions come to on a counter. -/
def tally (actions : List PlayerAction) (counter : Counter) : Nat :=
  (actions.map counter.worth).sum

namespace Observation

theorem count_empty (counter : Counter) : ({} : Observation).count counter = 0 := by
  cases counter with
  | damage force => exact ByForce.get_const 0 force
  | totalDamage | executionAttempts | kills | cardsPlayed => rfl

theorem count_add (seen : Observation) (action : PlayerAction) (counter : Counter) :
    (seen.add action).count counter = seen.count counter + counter.worth action := by
  cases counter with
  | damage force =>
    cases action with
    | damage given amount =>
      cases given with
      | none => rfl
      | some given =>
        by_cases same : given = force
        · subst same
          rw [Counter.worth, if_pos rfl]
          exact ByForce.get_set_same ..
        · rw [Counter.worth, if_neg same]
          exact ByForce.get_set_other _ _ (Ne.symm same)
    | executionAttempt | gremlinKilled | cardPlayed => rfl
  | totalDamage | executionAttempts | kills | cardsPlayed => cases action <;> rfl

theorem count_foldl (actions : List PlayerAction) (seen : Observation) (counter : Counter) :
    (actions.foldl add seen).count counter = seen.count counter + tally actions counter := by
  induction actions generalizing seen with
  | nil => rfl
  | cons action rest ih =>
    rw [List.foldl_cons, ih, count_add, tally, tally, List.map_cons, List.sum_cons, Nat.add_assoc]

end Observation

namespace AdaptiveTable

/-- A move is that of the first rule that some counts satisfy, or the opening move if they satisfy
none. -/
inductive Selects (table : AdaptiveTable) (count : Counter → Nat) : Nat → Prop
  | first (before : List AdaptiveRule) (rule : AdaptiveRule) (after : List AdaptiveRule)
      (rules : table.rules = before ++ rule :: after)
      (unmet : ∀ other ∈ before, count other.counter < other.threshold)
      (met : rule.threshold ≤ count rule.counter) : Selects table count rule.move
  | none (unmet : ∀ rule ∈ table.rules, count rule.counter < rule.threshold) :
      Selects table count 0

theorem selects (table : AdaptiveTable) (count : Counter → Nat) :
    table.Selects count (table.select count) := by
  have unmet : ∀ rule : AdaptiveRule, (!rule.isMet count) = true →
      count rule.counter < rule.threshold := by
    intro rule misses
    rw [AdaptiveRule.isMet, Bool.not_eq_true', decide_eq_false_iff_not, Nat.not_le] at misses
    exact misses
  unfold select
  cases found : table.rules.find? (·.isMet count) with
  | none =>
    refine .none fun rule member => unmet rule ?_
    rw [Bool.not_eq_true', Bool.eq_false_iff]
    exact List.find?_eq_none.mp found rule member
  | some rule =>
    obtain ⟨met, before, after, rules, misses⟩ := List.find?_eq_some_iff_append.mp found
    exact .first before rule after rules (fun other member => unmet other (misses other member))
      (of_decide_eq_true met)

theorem select_lt {table : AdaptiveTable} {bound : Nat} (some : 0 < bound)
    (inside : ∀ rule ∈ table.rules, rule.move < bound) (count : Counter → Nat) :
    table.select count < bound := by
  unfold select
  split
  · rename_i rule found
    exact inside rule (List.mem_of_find?_eq_some found)
  · exact some

theorem interval_of_read {interval : Nat} {s : String} {table : AdaptiveTable}
    (read : AdaptiveTable.read interval s = .ok table) : table.interval = interval := by
  rw [AdaptiveTable.read, readChars] at read
  split at read
  · cases read
    rfl
  · split at read
    · cases read
    · cases read
      rfl

/-- Whether the age of a gremlin is a multiple of the check interval, and not zero. -/
def isDue (table : AdaptiveTable) (born now : Ticks) : Bool :=
  now.count - born.count != 0 && (now.count - born.count) % table.interval == 0

theorem isDue_iff {table : AdaptiveTable} {born now : Ticks} (positive : 0 < table.interval) :
    table.isDue born now = true ↔ ∃ j, 1 ≤ j ∧ now.count = born.count + j * table.interval := by
  rw [isDue, Bool.and_eq_true, bne_iff_ne, beq_iff_eq]
  constructor
  · rintro ⟨older, multiple⟩
    refine ⟨(now.count - born.count) / table.interval, ?_, ?_⟩
    · exact (Nat.one_le_div_iff positive).mpr
        (Nat.le_of_dvd (Nat.pos_of_ne_zero older) (Nat.dvd_of_mod_eq_zero multiple))
    · rw [Nat.div_mul_cancel (Nat.dvd_of_mod_eq_zero multiple)]
      omega
  · rintro ⟨j, several, age⟩
    have grown : now.count - born.count = j * table.interval := by omega
    rw [grown]
    exact ⟨Nat.ne_of_gt (Nat.mul_pos several positive), Nat.mul_mod_left ..⟩

end AdaptiveTable

namespace Template

/-- An adaptive template has a table that is looked at from time to time and names its moves. -/
structure Adapts (template : Template) (table : AdaptiveTable) : Prop where
  given : template.adaptive = some table
  positive : 0 < table.interval
  inside : ∀ rule ∈ table.rules, rule.move < template.moves.length

theorem adapts_of_ofRecord {record : Record} {template : Template}
    (read : ofRecord record = .ok template) (adaptive : template.pattern = .adaptive) :
    ∃ table, template.Adapts table := by
  obtain ⟨traits, moves, rules, accepted⟩ := accepted_of_ofRecord read
  have table := accepted.adaptive_read
  rw [readAdaptive, if_pos (accepted.pattern_eq ▸ adaptive)] at table
  split at table
  · cases table
  · rename_i positive
    split at table
    · cases table
    · rename_i given readRules
      split at table
      · cases table
      · rename_i inside
        refine ⟨given, (Except.ok.inj table).symm, ?_, ?_⟩
        · rw [AdaptiveTable.interval_of_read readRules]
          exact Nat.pos_of_ne_zero positive
        · intro rule member
          rw [accepted.moves_eq, List.length_map]
          refine Nat.lt_of_not_le fun outside => inside ?_
          exact List.any_eq_true.mpr ⟨rule, member, decide_eq_true outside⟩

end Template

theorem Bestiary.adapts_of_mem_load {records : List Record} {template : Template}
    (member : template ∈ (load records).1.templates) (adaptive : template.pattern = .adaptive) :
    ∃ table, template.Adapts table := by
  obtain ⟨record, _, read⟩ := mem_load member
  exact Template.adapts_of_ofRecord read adaptive

end Gremlin
