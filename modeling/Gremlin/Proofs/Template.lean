import Gremlin.Bestiary
import Gremlin.Proofs.Move.Reading
import Gremlin.Proofs.Outcome
import Gremlin.Proofs.Transition

set_option autoImplicit false

/-!
What validation promises of a template, and that a bestiary holds validated templates only.
-/

namespace Gremlin

namespace Template

/-- What the rest of the library relies on in a template. -/
structure Sound (template : Template) : Prop where
  healthy : 0 < template.stats.maxHealth
  /-- A transition leads to a move of the template. -/
  next_lt : ∀ move ∈ template.moves, ∀ transition : Transition, move.transition = some transition →
    transition.next < template.moves.length
  /-- A transition of a sequence leads forward. -/
  forward : template.pattern = .sequence → ∀ index move, template.moves[index]? = some move →
    ∀ transition : Transition, move.transition = some transition → index < transition.next
  /-- Without a transition the pattern decides how often a move fires. -/
  limit : ∀ move ∈ template.moves, move.transition = none →
    move.triggerLimit = template.pattern.triggerLimit
  counts : ∀ move ∈ template.moves, ∀ transition : Transition, move.transition = some transition →
    transition.condition.Fits

/-- The checks a record has passed, and the template made of it. -/
structure Accepted (record : Record) (template : Template) (traits : Traits) (moves : List Move)
    (rules : List TransitionRule) : Prop where
  traits_read : readTraits record = .ok traits
  moves_read : Move.readList record.moves = .ok moves
  rules_read : TransitionRule.readList record.moveTransitions = .ok rules
  rules_checked : checkRules traits.pattern moves.length rules = .ok ()
  onDeath_read : Effect.readList 0 record.onDeath.toList = .ok template.onDeath
  thresholds_read : readThresholds traits.pattern rules moves.length = .ok template.thresholds
  weights_read : readWeights? record.moveWeights moves.length = some template.weights
  adaptive_read : readAdaptive record traits.pattern moves.length = .ok template.adaptive
  id_eq : template.id = traits.id
  stats_eq : template.stats = statsOf record
  targeting_eq : template.targeting =
    ⟨traits.protection, traits.summonPosition, ifPositive record.summonCap⟩
  pattern_eq : template.pattern = traits.pattern
  moves_eq : template.moves = moves.map (withTransition traits.pattern rules)

theorem accepted_of_ofRecord {record : Record} {template : Template}
    (read : ofRecord record = .ok template) :
    ∃ traits moves rules, Accepted record template traits moves rules := by
  rw [ofRecord, mapError_eq_ok, ofColumns, bind_eq_ok] at read
  obtain ⟨traits, traitsRead, read⟩ := read
  obtain ⟨moves, movesRead, read⟩ := bind_eq_ok.mp read
  obtain ⟨rules, rulesRead, read⟩ := bind_eq_ok.mp read
  obtain ⟨onDeath, onDeathRead, read⟩ := bind_eq_ok.mp read
  obtain ⟨_, checked, read⟩ := bind_eq_ok.mp read
  obtain ⟨thresholds, thresholdsRead, read⟩ := bind_eq_ok.mp read
  dsimp only at read
  split at read
  · rename_i weights weightsRead
    obtain ⟨_, same, read⟩ := bind_eq_ok.mp read
    cases same
    obtain ⟨adaptive, adaptiveRead, read⟩ := bind_eq_ok.mp read
    cases read
    exact ⟨traits, moves, rules, traitsRead, mapError_eq_ok.mp movesRead,
      mapError_eq_ok.mp rulesRead, checked, mapError_eq_ok.mp onDeathRead, thresholdsRead,
      weightsRead, adaptiveRead, rfl, rfl, rfl, rfl, rfl⟩
  · obtain ⟨_, failed, _⟩ := bind_eq_ok.mp read
    cases failed

theorem maxHealth_ne_zero_of_readTraits {record : Record} {traits : Traits}
    (read : readTraits record = .ok traits) : record.maxHealth ≠ 0 := by
  rw [readTraits] at read
  obtain ⟨_, read⟩ := refuse_eq_ok.mp read
  obtain ⟨_, read⟩ := refuse_eq_ok.mp read
  exact (refuse_eq_ok.mp read).1

/-- Rules that pass the check join moves of the template, and those of a sequence lead forward. -/
theorem rule_of_checkRules {pattern : Pattern} {count : Nat} {rules : List TransitionRule}
    (checked : checkRules pattern count rules = .ok ()) {rule : TransitionRule}
    (member : rule ∈ rules) :
    rule.transition.next < count ∧ (pattern = .sequence → rule.source < rule.transition.next) := by
  induction rules with
  | nil => cases member
  | cons first rest ih =>
    simp only [checkRules] at checked
    split at checked
    · cases checked
    · rename_i inside
      split at checked
      · cases checked
      · rename_i onward
        rcases List.mem_cons.mp member with rfl | later
        · refine ⟨by omega, fun sequence => ?_⟩
          exact Nat.lt_of_not_le fun backward => onward ⟨sequence, backward⟩
        · exact ih checked later

theorem transitionOf_eq_some {rules : List TransitionRule} {index : Nat} {transition : Transition}
    (found : transitionOf rules index = some transition) : ⟨index, transition⟩ ∈ rules := by
  obtain ⟨rule, last, rfl⟩ := Option.map_eq_some_iff.mp found
  have source : rule.source = index := by simpa using List.find?_some last
  have member := List.mem_reverse.mp (List.mem_of_find?_eq_some last)
  rw [← source]
  exact member

/-- A template made of a record is sound. -/
theorem sound_of_ofRecord {record : Record} {template : Template}
    (read : ofRecord record = .ok template) : template.Sound := by
  obtain ⟨traits, moves, rules, accepted⟩ := accepted_of_ofRecord read
  have count : template.moves.length = moves.length := by
    rw [accepted.moves_eq, List.length_map]
  have ruleOf : ∀ (index : Nat) (move : Move), template.moves[index]? = some move →
      ∀ transition, move.transition = some transition → ⟨index, transition⟩ ∈ rules := by
    intro index move found transition given
    rw [accepted.moves_eq, List.getElem?_map] at found
    obtain ⟨raw, rawFound, rfl⟩ := Option.map_eq_some_iff.mp found
    have place : raw.index = index := Move.index_of_readList accepted.moves_read rawFound
    exact place ▸ transitionOf_eq_some given
  have ruled : ∀ move ∈ template.moves, ∀ transition, move.transition = some transition →
      ∃ index, ⟨index, transition⟩ ∈ rules := by
    intro move member transition given
    obtain ⟨index, found⟩ := List.mem_iff_getElem?.mp member
    exact ⟨index, ruleOf index move found transition given⟩
  refine ⟨?_, ?_, ?_, ?_, ?_⟩
  · rw [accepted.stats_eq]
    exact Nat.pos_of_ne_zero (maxHealth_ne_zero_of_readTraits accepted.traits_read)
  · intro move member transition given
    obtain ⟨index, rule⟩ := ruled move member transition given
    rw [count]
    exact (rule_of_checkRules accepted.rules_checked rule).1
  · intro sequence index move found transition given
    exact (rule_of_checkRules accepted.rules_checked (ruleOf index move found transition given)).2
      (accepted.pattern_eq ▸ sequence)
  · intro move member absent
    rw [accepted.moves_eq, List.mem_map] at member
    obtain ⟨raw, _, rfl⟩ := member
    have missing : transitionOf rules raw.index = none := absent
    simp only [withTransition, missing, accepted.pattern_eq]
  · intro move member transition given
    obtain ⟨index, rule⟩ := ruled move member transition given
    exact TransitionRule.condition_fits_of_readList accepted.rules_read _ rule

/-- A cap on summons lets at least one live. -/
theorem summonCap_pos_of_ofRecord {record : Record} {template : Template}
    (read : ofRecord record = .ok template) {cap : Nat}
    (capped : template.targeting.summonCap = some cap) : 0 < cap := by
  obtain ⟨traits, moves, rules, accepted⟩ := accepted_of_ofRecord read
  rw [accepted.targeting_eq] at capped
  obtain ⟨positive, same⟩ := Option.ite_none_left_eq_some.mp capped
  cases same
  exact Nat.pos_of_ne_zero positive

/-- A gremlin of a template with so many live summons may have another. -/
def HasRoom (template : Template) (live : Nat) : Prop :=
  ∀ cap, template.targeting.summonCap = some cap → live < cap

theorem exists_cap_of_not_hasRoom {template : Template} {live : Nat}
    (full : ¬ template.HasRoom live) :
    ∃ cap, template.targeting.summonCap = some cap ∧ cap ≤ live := by
  simp only [HasRoom, Classical.not_forall, Nat.not_lt] at full
  obtain ⟨cap, capped, reached⟩ := full
  exact ⟨cap, capped, reached⟩

end Template

namespace Bestiary

theorem mem_accept {kept : List Template} {records : List Record} {template : Template}
    (member : template ∈ (accept kept records).1) :
    template ∈ kept ∨ ∃ record ∈ records, Template.ofRecord record = .ok template := by
  induction records generalizing kept with
  | nil => exact .inl member
  | cons record rest ih =>
    have later : (∃ other ∈ rest, Template.ofRecord other = .ok template) →
        ∃ other ∈ record :: rest, Template.ofRecord other = .ok template :=
      fun ⟨other, among, read⟩ => ⟨other, List.mem_cons_of_mem _ among, read⟩
    rw [accept] at member
    split at member
    · exact (ih member).imp_right later
    · rename_i first read
      split at member
      · exact (ih member).imp_right later
      · rcases ih member with held | found
        · rcases List.mem_append.mp held with old | new
          · exact .inl old
          · rw [List.mem_singleton] at new
            exact .inr ⟨record, List.mem_cons_self, new ▸ read⟩
        · exact .inr (later found)

theorem mem_close {templates : List Template} {template : Template}
    (member : template ∈ (close templates).1) : template ∈ templates := by
  induction templates using close.induct with
  | case1 templates fewer kept errors settled ih =>
    rw [close, dif_pos fewer] at member
    exact (List.mem_filter.mp (ih member)).1
  | case2 templates stable =>
    rw [close, dif_neg stable] at member
    exact member

/-- Every template of a bestiary was made of one of its records. -/
theorem mem_load {records : List Record} {template : Template}
    (member : template ∈ (load records).1.templates) :
    ∃ record ∈ records, Template.ofRecord record = .ok template := by
  rcases mem_accept (mem_close member) with none | found
  · cases none
  · exact found

theorem sound_of_mem_load {records : List Record} {template : Template}
    (member : template ∈ (load records).1.templates) : template.Sound := by
  obtain ⟨record, _, read⟩ := mem_load member
  exact Template.sound_of_ofRecord read

theorem summonCap_pos_of_mem_load {records : List Record} {template : Template}
    (member : template ∈ (load records).1.templates) {cap : Nat}
    (capped : template.targeting.summonCap = some cap) : 0 < cap := by
  obtain ⟨record, _, read⟩ := mem_load member
  exact Template.summonCap_pos_of_ofRecord read capped

theorem mem_of_get? {bestiary : Bestiary} {id : String} {template : Template}
    (found : bestiary.get? id = some template) : template ∈ bestiary.templates :=
  List.mem_of_find?_eq_some found

end Bestiary

end Gremlin
