import Gremlin.Proofs.Template

set_option autoImplicit false

/-!
The stages of a template whose moves follow one another: which move is entered at which age. They
depend on the template alone, and each stage is later than the one before.
-/

namespace Gremlin

open Gremlin.Text (wordBound)

namespace Condition

/-- Whether a condition is met after a fixed time, and not at once. -/
def IsTimed : Condition → Prop
  | afterTriggers count | afterTicks count => 1 ≤ count
  | automatic => True
  | atHealth _ => False

instance : DecidablePred IsTimed
  | afterTriggers count | afterTicks count => inferInstanceAs (Decidable (1 ≤ count))
  | automatic => inferInstanceAs (Decidable True)
  | atHealth _ => inferInstanceAs (Decidable False)

/-- How long a move with a period is held until a timed condition is met. -/
def dwell (period : Nat) : Condition → Nat
  | afterTriggers count => count * period
  | afterTicks count => count
  | automatic | atHealth _ => period

end Condition

namespace Move

/-- The ticks from one trigger to the next. -/
def period (move : Move) : Nat := max move.interval 1

/-- How long a move is held. -/
def dwell (move : Move) : Nat :=
  match move.transition with
  | some transition => transition.condition.dwell move.period
  | none => move.period

/-- How often a move held for so many ticks has been triggered: a passive one in every tick, and
any other once in each interval. -/
def triggersAfter (move : Move) (held : Nat) : Nat :=
  if move.isPassive then held else held / move.interval

theorem period_pos (move : Move) : 0 < move.period := Nat.le_max_right _ _

theorem le_triggersAfter_iff (move : Move) {count held : Nat} :
    count ≤ move.triggersAfter held ↔ count * move.period ≤ held := by
  unfold triggersAfter period
  split
  · rename_i passive
    have none : move.interval = 0 := beq_iff_eq.mp passive
    rw [none, Nat.max_eq_right (Nat.zero_le 1), Nat.mul_one]
  · rename_i active
    have some : 0 < move.interval := Nat.pos_of_ne_zero fun none => active (beq_iff_eq.mpr none)
    rw [Nat.max_eq_left some, Nat.le_div_iff_mul_le some]

/-- A move that is not held for longer than its dwell is triggered no more often than 32 bits can
count. -/
theorem triggersAfter_lt {move : Move} {held : Nat} (early : held ≤ move.dwell)
    (counts : ∀ transition : Transition, move.transition = some transition →
      transition.condition.Fits) :
    move.triggersAfter held < wordBound := by
  obtain ⟨count, small, within⟩ : ∃ count < wordBound, move.dwell ≤ count * move.period := by
    unfold dwell
    cases given : move.transition with
    | none => exact ⟨1, by decide, Nat.le_of_eq (Nat.one_mul _).symm⟩
    | some transition =>
      have fits := counts transition given
      dsimp only
      cases shape : transition.condition with
      | afterTriggers count =>
        rw [shape] at fits
        exact ⟨count, fits, Nat.le_refl _⟩
      | afterTicks count =>
        rw [shape] at fits
        exact ⟨count, fits, Nat.le_mul_of_pos_right count move.period_pos⟩
      | automatic | atHealth _ => exact ⟨1, by decide, Nat.le_of_eq (Nat.one_mul _).symm⟩
  refine Nat.lt_of_not_le fun many => Nat.not_le.mpr small ?_
  have long := move.le_triggersAfter_iff.mp many
  exact Nat.le_of_mul_le_mul_right (Nat.le_trans long (Nat.le_trans early within)) move.period_pos

/-- What makes the stages of a move predictable. -/
structure Timed (move : Move) : Prop where
  condition : ∀ transition : Transition, move.transition = some transition →
    transition.condition.IsTimed
  limit : move.transition = none → move.triggerLimit = 1

namespace Timed

variable {move : Move} (timed : move.Timed)

include timed

theorem dwell_pos : 0 < move.dwell := by
  have period := move.period_pos
  unfold dwell
  cases given : move.transition with
  | none => exact period
  | some transition =>
    have condition := timed.condition transition given
    change 0 < transition.condition.dwell move.period
    cases shape : transition.condition with
    | afterTriggers count =>
      rw [shape] at condition
      exact Nat.mul_pos condition period
    | afterTicks count =>
      rw [shape] at condition
      exact condition
    | automatic | atHealth _ => exact period

/-- A move is complete once it has been held for its dwell, whatever the health. -/
theorem isComplete_iff (held : Nat) (health : Float) :
    move.isComplete (move.triggersAfter held) held health = true ↔ move.dwell ≤ held := by
  have once : 1 ≤ move.triggersAfter held ↔ move.period ≤ held := by
    rw [move.le_triggersAfter_iff, Nat.one_mul]
  unfold isComplete dwell
  cases given : move.transition with
  | none =>
    have limit := timed.limit given
    simp only [limit, Nat.one_ne_zero, bne_iff_ne, ne_eq, not_false_eq_true, Bool.and_eq_true,
      decide_eq_true_eq, true_and]
    exact once
  | some transition =>
    have condition := timed.condition transition given
    cases shape : transition.condition with
    | afterTriggers count =>
      simp only [Condition.isMet, Condition.dwell, shape, decide_eq_true_eq]
      exact move.le_triggersAfter_iff
    | afterTicks count => simp only [Condition.isMet, Condition.dwell, shape, decide_eq_true_eq]
    | automatic =>
      simp only [Condition.isMet, Condition.dwell, shape, decide_eq_true_eq]
      exact once
    | atHealth threshold =>
      rw [shape] at condition
      exact condition.elim

end Timed

end Move

/-- A move of a template and the age at which a gremlin enters it. -/
structure Stage where
  age : Nat
  index : Nat
deriving DecidableEq, Repr

namespace Template

/-- A template whose moves follow one another after fixed times. -/
structure Timed (template : Template) : Prop where
  pattern : template.pattern = .cycle ∨ template.pattern = .sequence
  moves : template.moves ≠ []
  conditions : ∀ move ∈ template.moves, ∀ transition ∈ move.transition,
    transition.condition.IsTimed

instance : DecidablePred Timed := fun template =>
  decidable_of_iff
    ((template.pattern = .cycle ∨ template.pattern = .sequence) ∧ template.moves ≠ [] ∧
      ∀ move ∈ template.moves, ∀ transition ∈ move.transition, transition.condition.IsTimed)
    ⟨fun ⟨pattern, moves, conditions⟩ => ⟨pattern, moves, conditions⟩,
      fun ⟨pattern, moves, conditions⟩ => ⟨pattern, moves, conditions⟩⟩

/-- The move that follows a move: the one its transition names, or else the next one; a cycle starts
over after the last, and a sequence holds it for ever. -/
def successor? (template : Template) (index : Nat) : Option Nat :=
  match template.moves[index]?.bind (·.transition) with
  | some transition => some transition.next
  | none =>
    if template.pattern = .cycle then some ((index + 1) % template.moves.length)
    else if index + 1 < template.moves.length then some (index + 1)
    else none

/-- How long a move is held. -/
def dwell (template : Template) (index : Nat) : Nat :=
  (template.moves[index]?.map (·.dwell)).getD 0

/-- The stage that follows a stage. -/
def nextStage? (template : Template) (stage : Stage) : Option Stage :=
  (template.successor? stage.index).map fun next =>
    ⟨stage.age + template.dwell stage.index, next⟩

/-- The stages in order, the first at birth. -/
def stage? (template : Template) : Nat → Option Stage
  | 0 => some ⟨0, 0⟩
  | n + 1 => (template.stage? n).bind template.nextStage?

theorem move_timed {template : Template} (sound : template.Sound) (timed : template.Timed)
    {move : Move} (member : move ∈ template.moves) : move.Timed := by
  refine ⟨timed.conditions move member, fun absent => ?_⟩
  rw [sound.limit move member absent]
  rcases timed.pattern with cycle | sequence
  · rw [cycle]
    rfl
  · rw [sequence]
    rfl

theorem dwell_pos {template : Template} (sound : template.Sound) (timed : template.Timed)
    {index : Nat} (inside : index < template.moves.length) : 0 < template.dwell index := by
  have move := move_timed sound timed (List.getElem_mem inside)
  rw [dwell, List.getElem?_eq_getElem inside, Option.map_some, Option.getD_some]
  exact move.dwell_pos

theorem nextStage?_age_le {template : Template} {stage next : Stage}
    (follows : template.nextStage? stage = some next) : stage.age ≤ next.age := by
  obtain ⟨index, _, rfl⟩ := Option.map_eq_some_iff.mp follows
  exact Nat.le_add_right _ _

/-- Whatever stage comes later comes at no lower age. -/
theorem stage?_age_le {template : Template} {n m : Nat} (order : n ≤ m) {later : Stage}
    (found : template.stage? m = some later) :
    ∃ stage, template.stage? n = some stage ∧ stage.age ≤ later.age := by
  induction m generalizing later with
  | zero =>
    have first : n = 0 := Nat.le_zero.mp order
    exact ⟨later, first ▸ found, Nat.le_refl _⟩
  | succ m ih =>
    by_cases last : n = m + 1
    · exact ⟨later, last ▸ found, Nat.le_refl _⟩
    · obtain ⟨before, earlier, follows⟩ := Option.bind_eq_some_iff.mp found
      obtain ⟨stage, present, age⟩ := ih (by omega) earlier
      exact ⟨stage, present, Nat.le_trans age (nextStage?_age_le follows)⟩

/-- The stages a gremlin has entered since its birth, and the one it is in. -/
inductive Walked (template : Template) : List Stage → Stage → Prop
  | start : Walked template [] ⟨0, 0⟩
  | step {entered : List Stage} {stage next : Stage} (so_far : Walked template entered stage)
      (follows : template.nextStage? stage = some next) :
      Walked template (entered ++ [next]) next

namespace Walked

variable {template : Template} {entered : List Stage} {stage : Stage}

theorem stage?_length (walked : Walked template entered stage) :
    template.stage? entered.length = some stage := by
  induction walked with
  | start => rfl
  | step so_far follows ih =>
    rw [List.length_append, List.length_singleton, stage?, ih]
    exact follows

/-- The stages entered are the first ones after that of the birth. -/
theorem getElem?_entered (walked : Walked template entered stage) {n : Nat}
    (inside : n < entered.length) : entered[n]? = template.stage? (n + 1) := by
  induction walked with
  | start => cases inside
  | @step entered stage next so_far follows ih =>
    by_cases last : n = entered.length
    · subst last
      rw [List.getElem?_concat_length, stage?, so_far.stage?_length]
      exact follows.symm
    · have earlier : n < entered.length := by
        rw [List.length_append, List.length_singleton] at inside
        omega
      rw [List.getElem?_append_left earlier]
      exact ih earlier

/-- No stage entered is beyond the present one, and every other is if it is not due. -/
theorem getElem?_entered_eq (walked : Walked template entered stage) {age : Nat}
    (reached : stage.age ≤ age)
    (ahead : ∀ next, template.nextStage? stage = some next → age < next.age) (n : Nat) :
    entered[n]? = (template.stage? (n + 1)).filter fun stage => stage.age ≤ age := by
  by_cases inside : n < entered.length
  · obtain ⟨present, found, early⟩ :=
      stage?_age_le (Nat.succ_le_of_lt inside) walked.stage?_length
    rw [walked.getElem?_entered inside, found, Option.filter_some,
      if_pos (decide_eq_true (Nat.le_trans early reached))]
  · rw [List.getElem?_eq_none (Nat.le_of_not_lt inside)]
    symm
    rw [Option.filter_eq_none_iff]
    intro later found
    obtain ⟨next, follows, early⟩ :=
      stage?_age_le (n := entered.length + 1) (by omega) found
    rw [stage?, walked.stage?_length] at follows
    have beyond := ahead next follows
    simp only [decide_eq_true_eq]
    omega

end Walked

end Template

end Gremlin
