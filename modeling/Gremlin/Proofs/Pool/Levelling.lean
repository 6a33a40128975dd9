import Gremlin.Pool.Basic
import Gremlin.Proofs.Amounts
import Mathlib.Data.List.Forall2

set_option autoImplicit false

/-!
Lowering the largest forces to a common level: exactly the excess comes off, and no force gains.
-/

namespace Gremlin

namespace ByForce

theorem get_le_of_forall₂ {v w : ByForce Nat}
    (below : List.Forall₂ (· ≤ ·) v.toList w.toList) (f : Force) : v.get f ≤ w.get f := by
  simp only [toList, List.forall₂_cons] at below
  obtain ⟨heat, precision, momentum, balance, entropy, _⟩ := below
  cases f <;> assumption

theorem sum_toList_le {v w : ByForce Nat} (below : ∀ f, v.get f ≤ w.get f) :
    v.toList.sum ≤ w.toList.sum :=
  List.Forall₂.sum_le_sum (.cons (below .heat) (.cons (below .precision) (.cons (below .momentum)
    (.cons (below .balance) (.cons (below .entropy) .nil)))))

end ByForce

namespace Pool

/-! ### The level -/

theorem map_min_of_le {line : Nat} {amounts : List Nat} (below : ∀ n ∈ amounts, n ≤ line) :
    amounts.map (min · line) = amounts := by
  conv_rhs => rw [← List.map_id amounts]
  exact List.map_congr_left fun n member => Nat.min_eq_left (below n member)

theorem map_min_of_ge {line : Nat} {amounts : List Nat} (above : ∀ n ∈ amounts, line ≤ n) :
    amounts.map (min · line) = List.replicate amounts.length line := by
  rw [← List.map_const']
  exact List.map_congr_left fun n member => Nat.min_eq_right (above n member)

theorem map_min_le (line : Nat) (amounts : List Nat) :
    List.Forall₂ (· ≤ ·) (amounts.map (min · line)) amounts :=
  List.forall₂_map_left_iff.mpr (List.forall₂_same.mpr fun n _ => Nat.min_le_left n line)

theorem length_mul_le_sum {least : Nat} {amounts : List Nat} (above : ∀ n ∈ amounts, least ≤ n) :
    amounts.length * least ≤ amounts.sum :=
  amounts.card_nsmul_le_sum least above

/-- A quotient rounded up. -/
theorem ceil_bounds (n : Nat) {size : Nat} (positive : 0 < size) :
    n ≤ size * ((n + (size - 1)) / size) ∧ size * ((n + (size - 1)) / size) < n + size := by
  have division := Nat.div_add_mod (n + (size - 1)) size
  have remainder := Nat.mod_lt (n + (size - 1)) positive
  omega

/-- The level of a group of `size` amounts that hold `held`, the least of them `amount`: it lies
between the least amount of the group and the next one, and the units that come off differ from
`excess` by less than one for each amount. -/
theorem line_bounds {held size amount next excess line : Nat} (positive : 0 < size)
    (some : size * amount ≤ held) (descends : next ≤ amount) (short : held < excess + size * amount ∨
      held = size * amount) (fits : excess ≤ held - size * next)
    (ceiled : (held - excess + (size - 1)) / size = line) :
    next ≤ line ∧ line ≤ amount ∧ held ≤ size * line + excess ∧
      size * line + excess < held + size := by
  obtain ⟨lower, upper⟩ := ceil_bounds (held - excess) positive
  rw [ceiled] at lower upper
  have heldNext : size * next ≤ size * amount := Nat.mul_le_mul_left size descends
  have aboveNext : size * next ≤ size * line := by omega
  have belowAmount : size * line < size * (amount + 1) := by
    rw [Nat.mul_succ]
    omega
  refine ⟨Nat.le_of_mul_le_mul_left aboveNext positive,
    Nat.le_of_lt_succ (Nat.lt_of_mul_lt_mul_left belowAmount), ?_, ?_⟩ <;> omega

/-- What lowering amounts to a line leaves to be done: nothing more than `excess` has come off, and
what is left of it is no more than there are amounts at the line. -/
structure Levels (excess line : Nat) (amounts : List Nat) : Prop where
  enough : amounts.sum ≤ (amounts.map (min · line)).sum + excess
  rest : (amounts.map (min · line)).sum + excess - amounts.sum ≤
    if 0 < line then (amounts.map (min · line)).count line else 0

/-- A group that can be lowered by the excess without falling below the next amount. -/
theorem levels_of_group {excess line : Nat} {above rest : List Nat} {amount : Nat}
    (sorted : (above ++ amount :: rest).Pairwise (· ≥ ·))
    (short : above = [] ∨ above.sum - above.length * amount < excess)
    (fits : excess ≤ above.sum + amount - (above.length + 1) * rest.headD 0)
    (ceiled : (above.sum + amount - excess + (above.length + 1 - 1)) / (above.length + 1) = line) :
    Levels excess line (above ++ amount :: rest) := by
  obtain ⟨_, tailSorted, crossed⟩ := List.pairwise_append.mp sorted
  obtain ⟨below, restSorted⟩ := List.pairwise_cons.mp tailSorted
  have aboveHeld : above.length * amount ≤ above.sum :=
    length_mul_le_sum fun n member => crossed n member amount List.mem_cons_self
  have descends : rest.headD 0 ≤ amount ∧ ∀ n ∈ rest, n ≤ rest.headD 0 := by
    cases rest with
    | nil => exact ⟨Nat.zero_le _, fun _ member => by cases member⟩
    | cons next others =>
      refine ⟨below next List.mem_cons_self, fun n member => ?_⟩
      rcases List.mem_cons.mp member with rfl | later
      · exact Nat.le_refl _
      · exact (List.pairwise_cons.mp restSorted).1 n later
  obtain ⟨nextLe, leAmount, lower, upper⟩ := line_bounds (Nat.succ_pos above.length)
    (by rw [Nat.succ_mul]; omega) descends.1
    (by
      rw [Nat.succ_mul]
      rcases short with none | less
      · subst none
        simp
      · omega) fits ceiled
  -- the line lies between `amount` and the next one, so it cuts off just this group
  have lowered : (above ++ amount :: rest).map (min · line) =
      List.replicate (above.length + 1) line ++ rest := by
    have group : ∀ n ∈ above ++ [amount], line ≤ n := by
      intro n member
      rcases List.mem_append.mp member with early | last
      · exact Nat.le_trans leAmount (crossed n early amount List.mem_cons_self)
      · rw [List.mem_singleton] at last
        exact last ▸ leAmount
    rw [List.append_cons, List.map_append, map_min_of_ge group, List.length_append,
      List.length_singleton, map_min_of_le fun n member => Nat.le_trans (descends.2 n member) nextLe]
  have total : (above ++ amount :: rest).sum = above.sum + amount + rest.sum := by
    rw [List.sum_append_nat, List.sum_cons, Nat.add_assoc]
  have loweredTotal : ((above ++ amount :: rest).map (min · line)).sum =
      (above.length + 1) * line + rest.sum := by
    rw [lowered, List.sum_append_nat, List.sum_replicate_nat]
  rw [Nat.succ_eq_add_one] at lower upper
  refine ⟨by omega, ?_⟩
  rw [loweredTotal, total, lowered, List.count_append, List.count_replicate_self]
  split
  · omega
  · rename_i zero
    obtain rfl : line = 0 := Nat.eq_zero_of_not_pos zero
    omega

/-- The induction behind the level, on the amounts still to be looked at. Those before them cannot be
lowered far enough without falling below the next one, so a group that can is found before the
amounts run out. -/
theorem level_induction {excess : Nat} {motive : List Nat → List Nat → Prop}
    (none : excess = 0 → motive [] [])
    (fits : ∀ above amount rest, (above ++ amount :: rest).Pairwise (· ≥ ·) →
      above = [] ∨ above.sum - above.length * amount < excess →
      excess ≤ above.sum + amount - (above.length + 1) * rest.headD 0 →
      motive above (amount :: rest))
    (tight : ∀ above amount rest, (above ++ amount :: rest).Pairwise (· ≥ ·) →
      ¬excess ≤ above.sum + amount - (above.length + 1) * rest.headD 0 →
      motive (above ++ [amount]) rest → motive above (amount :: rest))
    {above rest : List Nat} (sorted : (above ++ rest).Pairwise (· ≥ ·))
    (short : above = [] ∨ above.sum - above.length * rest.headD 0 < excess)
    (enough : excess ≤ above.sum + rest.sum) : motive above rest := by
  induction rest generalizing above with
  | nil =>
    rcases short with rfl | less
    · exact none (by simpa using enough)
    · simp only [List.headD_nil, Nat.mul_zero, List.sum_nil] at less enough
      omega
  | cons amount rest ih =>
    by_cases within : excess ≤ above.sum + amount - (above.length + 1) * rest.headD 0
    · exact fits above amount rest sorted short within
    · have one : (above ++ [amount]).length = above.length + 1 := by simp
      have held : (above ++ [amount]).sum = above.sum + amount := by simp
      refine tight above amount rest sorted within (ih ?_ (.inr ?_) ?_)
      · rwa [← List.append_cons]
      · rw [one, held]
        omega
      · rw [held]
        rw [List.sum_cons] at enough
        omega

theorem level_levels {excess : Nat} {above rest : List Nat}
    (sorted : (above ++ rest).Pairwise (· ≥ ·))
    (short : above = [] ∨ above.sum - above.length * rest.headD 0 < excess)
    (enough : excess ≤ above.sum + rest.sum) :
    Levels excess (level excess above.length above.sum rest) (above ++ rest) := by
  refine level_induction (motive := fun above rest =>
    Levels excess (level excess above.length above.sum rest) (above ++ rest))
    ?_ ?_ ?_ sorted short enough
  · rintro rfl
    exact ⟨Nat.zero_le _, Nat.zero_le _⟩
  · intro above amount rest sorted short within
    rw [level, if_pos within]
    exact levels_of_group sorted short within rfl
  · intro above amount rest _ tight next
    rw [level, if_neg tight]
    simpa using next

/-! ### The units that do not divide evenly -/

theorem takeUnits_le {lowered amounts : List Nat} (below : List.Forall₂ (· ≤ ·) lowered amounts)
    (line units : Nat) : List.Forall₂ (· ≤ ·) (takeUnits line units lowered) amounts := by
  induction below generalizing units with
  | nil => cases units <;> exact .nil
  | @cons n amount lowered rest first others ih =>
    cases units with
    | zero => exact .cons first others
    | succ units =>
      rw [takeUnits]
      split
      · exact .cons (Nat.le_trans (Nat.sub_le n 1) first) (ih units)
      · exact .cons first (ih (units + 1))

section Enough

variable {line units amount : Nat} {rest : List Nat}
  (enough : units + 1 ≤ if 0 < line then (amount :: rest).count line else 0)

include enough

/-- A unit taken here need not be taken later. -/
theorem enough_later_of_level (here : 0 < line ∧ amount = line) :
    units ≤ if 0 < line then rest.count line else 0 := by
  simp only [here.1, here.2, List.count_cons_self, ↓reduceIte] at enough ⊢
  omega

/-- A unit not taken here can be taken later. -/
theorem enough_later_of_not_level (elsewhere : ¬(0 < line ∧ amount = line)) :
    units + 1 ≤ if 0 < line then rest.count line else 0 := by
  by_cases positive : 0 < line
  · have apart : amount ≠ line := fun same => elsewhere ⟨positive, same⟩
    rwa [List.count_cons_of_ne apart] at enough
  · simp [positive] at enough

end Enough

theorem sum_takeUnits {line units : Nat} {amounts : List Nat}
    (enough : units ≤ if 0 < line then amounts.count line else 0) :
    (takeUnits line units amounts).sum + units = amounts.sum := by
  induction amounts generalizing units with
  | nil =>
    have none : units = 0 := by simpa using enough
    subst none
    rfl
  | cons amount rest ih =>
    cases units with
    | zero => rfl
    | succ units =>
      rw [takeUnits]
      split
      · rename_i here
        have others := ih (enough_later_of_level enough here)
        rw [List.sum_cons, List.sum_cons]
        omega
      · rename_i elsewhere
        have others := ih (enough_later_of_not_level enough elsewhere)
        rw [List.sum_cons, List.sum_cons]
        omega

/-! ### All forces -/

theorem toList_tabulate {default : ByForce Nat} {amounts : List Nat} (five : amounts.length = 5) :
    (tabulate default amounts).toList = amounts := by
  match amounts, five with
  | [_, _, _, _, _], _ => rfl

/-- The level to which amounts are lowered so that `excess` units come off. -/
def line (excess : Nat) (amounts : ByForce Nat) : Nat :=
  level excess 0 0 (amounts.toList.mergeSort fun a b => decide (b ≤ a))

theorem mergeSort_descending (amounts : List Nat) :
    (amounts.mergeSort fun a b => decide (b ≤ a)).Pairwise fun a b => b ≤ a := by
  have sorted := @List.pairwise_mergeSort Nat (fun a b => decide (b ≤ a))
    (fun a b c first second => by
      rw [decide_eq_true_eq] at *
      exact Nat.le_trans second first)
    (fun a b => by simpa using Nat.le_total b a) amounts
  exact sorted.imp of_decide_eq_true

theorem line_levels {excess : Nat} {amounts : ByForce Nat} (enough : excess ≤ amounts.toList.sum) :
    Levels excess (line excess amounts) amounts.toList := by
  have descending := mergeSort_descending amounts.toList
  have same := List.mergeSort_perm amounts.toList fun a b : Nat => decide (b ≤ a)
  unfold line
  generalize amounts.toList.mergeSort (fun a b => decide (b ≤ a)) = sorted at descending same ⊢
  have found := @level_levels excess [] sorted (by simpa using descending) (.inl rfl)
    (by rw [same.sum_nat]; simpa using enough)
  rw [List.nil_append, List.length_nil, List.sum_nil] at found
  have lowered := same.map (min · (level excess 0 0 sorted))
  refine ⟨?_, ?_⟩
  · rw [← lowered.sum_nat, ← same.sum_nat]
    exact found.enough
  · rw [← lowered.sum_nat, ← same.sum_nat, ← lowered.count_eq]
    exact found.rest

/-- The units that the cut leaves to be taken. -/
theorem foldl_cut (line excess : Nat) (amounts : List Nat) :
    amounts.foldl (fun left n => left - (n - line)) excess =
      excess - (amounts.sum - (amounts.map (min · line)).sum) := by
  induction amounts generalizing excess with
  | nil => rfl
  | cons n rest ih =>
    have lowered := List.Forall₂.sum_le_sum (map_min_le line rest)
    rw [List.foldl_cons, ih, List.map_cons, List.sum_cons, List.sum_cons]
    omega

theorem toList_levelDown (excess : Nat) (amounts : ByForce Nat) :
    (levelDown excess amounts).toList = takeUnits (line excess amounts)
      (excess - (amounts.toList.sum - (amounts.toList.map (min · (line excess amounts))).sum))
      (amounts.toList.map (min · (line excess amounts))) := by
  rw [← foldl_cut]
  exact toList_tabulate (takeUnits_le (map_min_le _ amounts.toList) _ _).length_eq

/-- Exactly the excess comes off. -/
theorem sum_levelDown {excess : Nat} {amounts : ByForce Nat}
    (enough : excess ≤ amounts.toList.sum) :
    (levelDown excess amounts).toList.sum = amounts.toList.sum - excess := by
  obtain ⟨kept, rest⟩ := line_levels enough
  have lowered := List.Forall₂.sum_le_sum (map_min_le (line excess amounts) amounts.toList)
  rw [toList_levelDown]
  generalize line excess amounts = line at kept rest lowered ⊢
  have taken := @sum_takeUnits line (excess - (amounts.toList.sum -
    (amounts.toList.map (min · line)).sum)) (amounts.toList.map (min · line)) (by omega)
  omega

/-- Taking off what a sum in 32 bits is above a cap brings it down to the cap, whatever multiple of
2^32 it leaves out. -/
theorem wrappingSum_levelDown (amounts : ByForce Nat) (cap : Nat) :
    wrappingSum (levelDown (wrappingSum amounts.toList - cap) amounts).toList =
      min (wrappingSum amounts.toList) cap := by
  have enough : wrappingSum amounts.toList - cap ≤ amounts.toList.sum :=
    Nat.le_trans (Nat.sub_le ..) (wrappingSum_le _)
  rw [wrappingSum_eq (levelDown _ _).toList, sum_levelDown enough, wrappingSum_eq amounts.toList,
    Text.wordBound]
  omega

/-- No force gains by it. -/
theorem get_levelDown_le (excess : Nat) (amounts : ByForce Nat) (f : Force) :
    (levelDown excess amounts).get f ≤ amounts.get f := by
  refine ByForce.get_le_of_forall₂ ?_ f
  rw [toList_levelDown]
  exact takeUnits_le (map_min_le _ amounts.toList) _ _

end Pool

end Gremlin
