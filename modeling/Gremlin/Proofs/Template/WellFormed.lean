import Gremlin.Proofs.Adaptive

set_option autoImplicit false

/-!
What a template made of a record looks like: its moves stand in their places, each with the
transition and the limit that the record gives it, its thresholds fall strictly, and its weights
and its decision table fit its moves.
-/

namespace Gremlin

namespace Decimal

open Float.Model Float.Model.UnpackedFloat

/-- Where a number stands: among the infinities, zero and the two sides of zero, then by exponent
and by mantissa, which count downwards below zero. -/
def standing : UnpackedFloat → Option (Int × Int × Int)
  | .notANumber => none
  | .infinity .negative => some (-2, 0, 0)
  | .finite .negative mantissa exponent _ => some (-1, -exponent, -mantissa)
  | .zero _ => some (0, 0, 0)
  | .finite .positive mantissa exponent _ => some (1, exponent, mantissa)
  | .infinity .positive => some (2, 0, 0)

/-- Whether one place comes before another. -/
def Precedes (here there : Int × Int × Int) : Prop :=
  here.1 < there.1 ∨ here.1 = there.1 ∧
    (here.2.1 < there.2.1 ∨ here.2.1 = there.2.1 ∧ here.2.2 < there.2.2)

theorem Precedes.trans {here there beyond : Int × Int × Int} (first : Precedes here there)
    (second : Precedes there beyond) : Precedes here beyond := by
  unfold Precedes at *
  omega

theorem compare_eq_lt_iff (a b : UnpackedFloat) :
    UnpackedFloat.compare a b = some .lt ↔
      ∃ here there, standing a = some here ∧ standing b = some there ∧ Precedes here there := by
  rcases a with (_ | _) | _ | _ | ⟨_ | _, m, e, _⟩ <;>
  rcases b with (_ | _) | _ | _ | ⟨_ | _, n, f, _⟩ <;>
  dsimp only [UnpackedFloat.compare, standing] <;>
  simp [Precedes, Ordering.then_eq_lt, Ordering.then_eq_gt, Nat.compare_eq_gt, Nat.compare_eq_lt,
    Int.compare_eq_gt, Int.compare_eq_lt]
  rfl

theorem lt_of_lt_of_lt {x y z : Float} (first : x < y) (second : y < z) : x < z := by
  have ordered : ∀ u v : Float,
      u < v ↔ UnpackedFloat.compare u.toModel.unpack v.toModel.unpack = some .lt := by
    intro u v
    exact decide_eq_true_iff.trans beq_iff_eq
  rw [ordered, compare_eq_lt_iff] at *
  obtain ⟨here, there, atHere, atThere, before⟩ := first
  obtain ⟨there', beyond, atThere', atBeyond, onward⟩ := second
  cases atThere.symm.trans atThere'
  exact ⟨here, beyond, atHere, atBeyond, before.trans onward⟩

end Decimal

namespace Template

/-- Each fraction is less than all before it, not only than the last. -/
theorem pairwise_of_strictlyFalling {thresholds : List Percentage}
    (falling : strictlyFalling thresholds = true) :
    thresholds.Pairwise fun earlier later => later.fraction < earlier.fraction := by
  induction thresholds using strictlyFalling.induct with
  | case1 => exact .nil
  | case2 threshold => exact List.pairwise_singleton ..
  | case3 first second rest ih =>
    rw [strictlyFalling, Bool.and_eq_true, decide_eq_true_iff] at falling
    obtain ⟨drop, onward⟩ := falling
    have rest := ih onward
    refine List.pairwise_cons.mpr ⟨fun later member => ?_, rest⟩
    rcases List.mem_cons.mp member with rfl | after
    · exact drop
    · exact Decimal.lt_of_lt_of_lt ((List.pairwise_cons.mp rest).1 later after) drop

theorem thresholds_of_readThresholds {pattern : Pattern} {rules : List TransitionRule}
    {count : Nat} {thresholds : List Percentage} (byHealth : pattern = .byHealth)
    (read : readThresholds pattern rules count = .ok thresholds) :
    thresholds.length = count ∧ (thresholds.drop 1).Pairwise fun earlier later =>
      later.fraction < earlier.fraction := by
  rw [readThresholds, if_pos byHealth] at read
  dsimp only at read
  split at read
  · rename_i falling
    cases read
    exact ⟨by rw [List.length_map, List.length_range], pairwise_of_strictlyFalling falling⟩
  · cases read

theorem thresholds_eq_nil_of_readThresholds {pattern : Pattern} {rules : List TransitionRule}
    {count : Nat} {thresholds : List Percentage} (other : pattern ≠ .byHealth)
    (read : readThresholds pattern rules count = .ok thresholds) : thresholds = [] := by
  rw [readThresholds, if_neg other] at read
  exact (Except.ok.inj read).symm

theorem weights_of_readWeights? {s : String} {count : Nat} {weights : List Nat}
    (read : readWeights? s count = some weights) :
    weights = [] ∨ weights.length = count ∧ ∃ weight ∈ weights, 0 < weight := by
  rw [readWeights?] at read
  split at read
  · exact .inl (Option.some.inj read).symm
  · obtain ⟨_, fits⟩ := Option.filter_eq_some_iff.mp read
    obtain ⟨length, positive⟩ := (Bool.and_eq_true ..).mp fits
    obtain ⟨weight, member, above⟩ := List.any_eq_true.mp positive
    exact .inr ⟨of_decide_eq_true length, weight, member, of_decide_eq_true above⟩

theorem adaptive_isSome_iff {record : Record} {template : Template}
    (read : ofRecord record = .ok template) :
    template.adaptive.isSome ↔ template.pattern = .adaptive := by
  constructor
  · intro given
    obtain ⟨traits, moves, rules, accepted⟩ := accepted_of_ofRecord read
    by_contra other
    have none := accepted.adaptive_read
    rw [readAdaptive, if_neg (accepted.pattern_eq ▸ other)] at none
    rw [← Except.ok.inj none] at given
    cases given
  · intro adaptive
    obtain ⟨table, adapts⟩ := adapts_of_ofRecord read adaptive
    exact Option.isSome_iff_exists.mpr ⟨table, adapts.given⟩

theorem ifPositive_ne_zero (n : Nat) : ifPositive n ≠ some 0 := by
  intro zero
  obtain ⟨positive, same⟩ := Option.ite_none_left_eq_some.mp zero
  exact positive (Option.some.inj same)

theorem barrierCount_pos_iff (record : Record) :
    1 ≤ (statsOf record).barrierCount ↔ record.hasBarrier = true := by
  rw [statsOf]
  dsimp only
  split
  · rename_i barrier
    exact ⟨fun _ => barrier, fun _ => Nat.le_max_right ..⟩
  · rename_i none
    exact ⟨fun some => absurd some (by decide), fun barrier => absurd barrier none⟩

/-- The transition of a move is that of the last rule for it. -/
theorem transitionOf_eq (rules : List TransitionRule) (index : Nat) :
    transitionOf rules index =
      (rules.filter (·.source = index)).getLast?.map (·.transition) := by
  rw [transitionOf, ← List.head?_filter, List.filter_reverse, List.head?_reverse]

/-- What a record and the rules of its transition table make of its template. -/
structure WellFormed (record : Record) (rules : List TransitionRule) (template : Template) :
    Prop where
  index : ∀ (place : Nat) (move : Move), template.moves[place]? = some move → move.index = place
  /-- Of several rules for a move the last counts. -/
  transition : ∀ (place : Nat) (move : Move), template.moves[place]? = some move →
    move.transition = (rules.filter (·.source = place)).getLast?.map (·.transition)
  /-- Rules lead to moves of the template, and those of a sequence forward. -/
  joins : ∀ rule ∈ rules, rule.transition.next < template.moves.length ∧
    (template.pattern = .sequence → rule.source < rule.transition.next)
  leads : ∀ (place : Nat) (move : Move), template.moves[place]? = some move →
    ∀ transition : Transition, move.transition = some transition →
      transition.next < template.moves.length ∧
        (template.pattern = .sequence → place < transition.next)
  limit : ∀ move ∈ template.moves, move.triggerLimit =
    move.transition.elim template.pattern.triggerLimit (·.condition.triggerLimit)
  thresholds : template.pattern = .byHealth →
    template.thresholds.length = template.moves.length ∧
      (template.thresholds.drop 1).Pairwise fun earlier later => later.fraction < earlier.fraction
  noThresholds : template.pattern ≠ .byHealth → template.thresholds = []
  weights : template.weights = [] ∨ template.weights.length = template.moves.length ∧
    ∃ weight ∈ template.weights, 0 < weight
  adaptive_iff : template.adaptive.isSome ↔ template.pattern = .adaptive
  adaptive : ∀ table, template.adaptive = some table →
    0 < table.interval ∧ ∀ rule ∈ table.rules, rule.move < template.moves.length
  healthy : 1 ≤ template.stats.maxHealth
  damageCap : template.stats.damageCap ≠ some 0
  executeThreshold : template.stats.executeThreshold ≠ some 0
  summonCap : template.targeting.summonCap ≠ some 0
  barrier : 1 ≤ template.stats.barrierCount ↔ record.hasBarrier = true

/-- A record that is accepted makes a well-formed template. -/
theorem wellFormed_of_ofRecord {record : Record} {template : Template}
    (read : ofRecord record = .ok template) :
    ∃ rules, TransitionRule.readList record.moveTransitions = .ok rules ∧
      WellFormed record rules template := by
  obtain ⟨traits, moves, rules, accepted⟩ := accepted_of_ofRecord read
  have sound := sound_of_ofRecord read
  have count : template.moves.length = moves.length := by
    rw [accepted.moves_eq, List.length_map]
  have raw : ∀ (place : Nat) (move : Move), template.moves[place]? = some move →
      ∃ bare, moves[place]? = some bare ∧ bare.index = place ∧
        withTransition traits.pattern rules bare = move := by
    intro place move found
    rw [accepted.moves_eq, List.getElem?_map] at found
    obtain ⟨bare, bareFound, same⟩ := Option.map_eq_some_iff.mp found
    exact ⟨bare, bareFound, Move.index_of_readList accepted.moves_read bareFound, same⟩
  refine ⟨rules, accepted.rules_read, ?_⟩
  constructor
  case index =>
    intro place move found
    obtain ⟨bare, _, index, rfl⟩ := raw place move found
    exact index
  case transition =>
    intro place move found
    obtain ⟨bare, _, rfl, rfl⟩ := raw place move found
    exact transitionOf_eq rules bare.index
  case joins =>
    intro rule member
    rw [count, accepted.pattern_eq]
    exact rule_of_checkRules accepted.rules_checked member
  case leads =>
    intro place move found transition given
    exact ⟨sound.next_lt move (List.mem_of_getElem? found) transition given,
      fun sequence => sound.forward sequence place move found transition given⟩
  case limit =>
    intro move member
    rw [accepted.moves_eq, List.mem_map] at member
    obtain ⟨bare, _, rfl⟩ := member
    rw [accepted.pattern_eq, withTransition]
    dsimp only
    cases transitionOf rules bare.index <;> rfl
  case thresholds =>
    intro byHealth
    rw [count]
    exact thresholds_of_readThresholds (accepted.pattern_eq ▸ byHealth) accepted.thresholds_read
  case noThresholds =>
    intro other
    exact thresholds_eq_nil_of_readThresholds (accepted.pattern_eq ▸ other)
      accepted.thresholds_read
  case weights =>
    rw [count]
    exact weights_of_readWeights? accepted.weights_read
  case adaptive_iff => exact adaptive_isSome_iff read
  case adaptive =>
    intro table given
    have adaptive := (adaptive_isSome_iff read).mp (Option.isSome_iff_exists.mpr ⟨table, given⟩)
    obtain ⟨table', adapts⟩ := adapts_of_ofRecord read adaptive
    cases given.symm.trans adapts.given
    exact ⟨adapts.positive, adapts.inside⟩
  case healthy => exact sound.healthy
  case damageCap | executeThreshold =>
    rw [accepted.stats_eq]
    exact ifPositive_ne_zero _
  case summonCap =>
    rw [accepted.targeting_eq]
    exact ifPositive_ne_zero _
  case barrier =>
    rw [accepted.stats_eq]
    exact barrierCount_pos_iff record

/-- A gremlin whose opening move has two transitions, of which the later one counts. -/
def sentinel : Record where
  templateId := "sentinel"
  sizeCategory := "small"
  maxHealth := 12
  hasBarrier := true
  moves := "ticks=1,drain_heat=1|ticks=2,drain_heat=2|ticks=1,drain_heat=3"
  movePattern := "hp_based"
  moveTransitions := "0>1:at_80_percent_hp|0>2:after_3_triggers|1>2:at_30_percent_hp"
  moveWeights := "0,2,1"

theorem wellFormed_of_ofRecord_sentinel :
    ∃ template, ofRecord sentinel = .ok template ∧
      (template.moves.map fun move => (move.transition.map (·.next), move.triggerLimit)) =
        [(some 2, 3), (some 2, 0), (none, 0)] ∧
      ∃ rules, TransitionRule.readList sentinel.moveTransitions = .ok rules ∧
        WellFormed sentinel rules template := by
  have made : ((ofRecord sentinel).toOption.map fun template =>
      template.moves.map fun move => (move.transition.map (·.next), move.triggerLimit)) =
        some [(some 2, 3), (some 2, 0), (none, 0)] := by
    decide +kernel
  obtain ⟨template, read, shown⟩ := toOption_map_eq_some.mp made
  exact ⟨template, read, shown, wellFormed_of_ofRecord read⟩

end Template

end Gremlin
