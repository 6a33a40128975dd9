import Gremlin.Proofs.Pool.Caps
import Mathlib.Data.Finset.Max
import Mathlib.Data.Nat.PSub

set_option autoImplicit false

/-!
Lowering the largest forces to a common level, beside taking off one unit after another from
whichever force is the largest: both come to the same amounts, and on the way no subtraction goes
below zero.
-/

namespace Gremlin

theorem Force.pairwise_index : Force.all.Pairwise (·.index < ·.index) := by decide

namespace ByForce

theorem getElem?_toList {α : Type} (v : ByForce α) (f : Force) :
    v.toList[f.index]? = some (v.get f) := by
  cases f <;> rfl

theorem sum_toList_lt {v w : ByForce Nat} (below : ∀ f, v.get f ≤ w.get f) {f : Force}
    (less : v.get f < w.get f) : v.toList.sum < w.toList.sum := by
  have heat := below .heat
  have precision := below .precision
  have momentum := below .momentum
  have balance := below .balance
  have entropy := below .entropy
  simp only [get, toList, List.sum_cons, List.sum_nil] at *
  cases f <;> dsimp only at less <;> omega

end ByForce

namespace Pool

/-! ### One unit after another -/

/-- Whether there is no more of any force than of this one. -/
def isLargest (amounts : ByForce Nat) (f : Force) : Bool :=
  Force.all.all fun g => amounts.get g ≤ amounts.get f

/-- The force of which there is most; the one declared first of equals. -/
def most (amounts : ByForce Nat) : Force := (Force.all.find? (isLargest amounts)).getD .heat

/-- Takes one unit from the largest force. -/
def shaveOne (amounts : ByForce Nat) : ByForce Nat := amounts.modify (most amounts) (· - 1)

/-- Takes so many units, one after another, each from the force that is the largest by then. -/
def shave : Nat → ByForce Nat → ByForce Nat
  | 0, amounts => amounts
  | units + 1, amounts => shave units (shaveOne amounts)

section Most

variable (amounts : ByForce Nat)

theorem isLargest_iff (f : Force) :
    isLargest amounts f = true ↔ ∀ g, amounts.get g ≤ amounts.get f := by
  simp only [isLargest, List.all_eq_true, decide_eq_true_eq]
  exact ⟨fun largest g => largest g g.mem_all, fun largest g _ => largest g⟩

theorem find?_isLargest : Force.all.find? (isLargest amounts) = some (most amounts) := by
  have several : Force.all.toFinset.Nonempty := ⟨.heat, by decide⟩
  obtain ⟨f, _, largest⟩ := Finset.exists_max_image Force.all.toFinset amounts.get several
  have found : (Force.all.find? (isLargest amounts)).isSome = true := by
    rw [List.find?_isSome]
    refine ⟨f, f.mem_all, (isLargest_iff amounts f).mpr fun g => ?_⟩
    exact largest g (List.mem_toFinset.mpr g.mem_all)
  obtain ⟨first, same⟩ := Option.isSome_iff_exists.mp found
  rw [most, same, Option.getD_some]

theorem get_le_most (g : Force) : amounts.get g ≤ amounts.get (most amounts) :=
  (isLargest_iff amounts _).mp (List.find?_some (find?_isLargest amounts)) g

/-- Of the largest forces it is the first. -/
theorem most_index_lt {g : Force} (equal : amounts.get g = amounts.get (most amounts))
    (other : g ≠ most amounts) : (most amounts).index < g.index := by
  obtain ⟨_, early, late, all, smaller⟩ :=
    List.find?_eq_some_iff_append.mp (find?_isLargest amounts)
  have largest : isLargest amounts g = true :=
    (isLargest_iff amounts g).mpr fun h => equal ▸ get_le_most amounts h
  have member : g ∈ early ++ most amounts :: late := all ▸ g.mem_all
  have later : g ∈ late := by
    rcases List.mem_append.mp member with before | after
    · have beaten := smaller g before
      rw [largest] at beaten
      cases beaten
    · exact (List.mem_cons.mp after).resolve_left other
  have ordered := Force.pairwise_index
  rw [all] at ordered
  exact (List.pairwise_cons.mp (List.pairwise_append.mp ordered).2.1).1 g later

theorem get_shaveOne_most :
    (shaveOne amounts).get (most amounts) = amounts.get (most amounts) - 1 :=
  ByForce.get_set_same ..

theorem get_shaveOne_other {g : Force} (other : g ≠ most amounts) :
    (shaveOne amounts).get g = amounts.get g :=
  ByForce.get_set_other _ _ other

theorem sum_shaveOne : (shaveOne amounts).toList.sum = amounts.toList.sum - 1 := by
  have largest := get_le_most amounts
  unfold shaveOne
  generalize most amounts = f at largest ⊢
  have heat := largest .heat
  have precision := largest .precision
  have momentum := largest .momentum
  have balance := largest .balance
  have entropy := largest .entropy
  cases f <;>
    simp only [ByForce.modify, ByForce.set, ByForce.get, ByForce.toList, List.sum_cons, List.sum_nil]
      at * <;> omega

theorem sum_shave (units : Nat) : (shave units amounts).toList.sum =
    amounts.toList.sum - units := by
  induction units generalizing amounts with
  | zero => rfl
  | succ units ih =>
    rw [shave, ih, sum_shaveOne]
    omega

end Most

/-! ### Level amounts -/

/-- Amounts that have been lowered evenly: nothing that has been lowered is more than a unit below
anything else, and what is a unit below has been declared before. -/
structure Levelled (amounts lowered : ByForce Nat) : Prop where
  below : ∀ f, lowered.get f ≤ amounts.get f
  level : ∀ f g, lowered.get f < amounts.get f → lowered.get g ≤ lowered.get f + 1
  order : ∀ f g, lowered.get f < amounts.get f → lowered.get g = lowered.get f + 1 →
    f.index < g.index

namespace Levelled

variable {amounts lowered other : ByForce Nat}

theorem refl (amounts : ByForce Nat) : Levelled amounts amounts :=
  ⟨fun _ => Nat.le_refl _, fun _ _ less => absurd less (Nat.lt_irrefl _),
    fun _ _ less => absurd less (Nat.lt_irrefl _)⟩

/-- What is higher in one way of levelling is so in all forces. -/
theorem not_lt_of_lt (first : Levelled amounts lowered) (second : Levelled amounts other)
    {f g : Force} (less : lowered.get f < other.get f) : ¬ other.get g < lowered.get g := by
  intro more
  have touched : lowered.get f < amounts.get f := Nat.lt_of_lt_of_le less (second.below f)
  have touched' : other.get g < amounts.get g := Nat.lt_of_lt_of_le more (first.below g)
  have above := first.level f g touched
  have above' := second.level g f touched'
  -- both stand exactly a unit apart, so each of the two is declared before the other
  have before := first.order f g touched (by omega)
  have before' := second.order g f touched' (by omega)
  omega

/-- There is one way to level amounts to a given total. -/
theorem unique (first : Levelled amounts lowered) (second : Levelled amounts other)
    (total : lowered.toList.sum = other.toList.sum) : lowered = other := by
  refine ByForce.ext_get fun f => ?_
  by_contra apart
  rcases Nat.lt_or_gt_of_ne apart with less | more
  · have smaller := ByForce.sum_toList_lt
      (fun g => Nat.le_of_not_lt (first.not_lt_of_lt second less)) less
    omega
  · have smaller := ByForce.sum_toList_lt
      (fun g => Nat.le_of_not_lt (second.not_lt_of_lt first more)) more
    omega

theorem shaveOne (levelled : Levelled amounts lowered) : Levelled amounts (shaveOne lowered) := by
  have top := get_shaveOne_most lowered
  have largest := get_le_most lowered
  have same : ∀ {g}, g ≠ most lowered → (Pool.shaveOne lowered).get g = lowered.get g :=
    get_shaveOne_other lowered
  have fewer : ∀ g, (Pool.shaveOne lowered).get g ≤ lowered.get g := by
    intro g
    by_cases chosen : g = most lowered
    · rw [chosen, top]
      omega
    · rw [same chosen]
  refine ⟨fun f => Nat.le_trans (fewer f) (levelled.below f), fun f g touched => ?_,
    fun f g touched stands => ?_⟩
  · by_cases chosen : f = most lowered
    · have within := largest g
      have after := fewer g
      rw [chosen, top]
      omega
    · rw [same chosen] at touched ⊢
      exact Nat.le_trans (fewer g) (levelled.level f g touched)
  · by_cases chosen : f = most lowered
    · subst chosen
      by_cases itself : g = most lowered
      · rw [itself] at stands
        omega
      · rw [same itself, top] at stands
        have within := largest g
        exact most_index_lt lowered (by omega) itself
    · rw [same chosen] at touched stands
      by_cases itself : g = most lowered
      · rw [itself, top] at stands
        have above := levelled.level f (most lowered) touched
        omega
      · rw [same itself] at stands
        exact levelled.order f g touched stands

theorem shave (units : Nat) (levelled : Levelled amounts lowered) :
    Levelled amounts (shave units lowered) := by
  induction units generalizing lowered with
  | zero => exact levelled
  | succ units ih => exact ih levelled.shaveOne

end Levelled

/-! ### The common level -/

/-- The units that do not divide evenly come off the first amounts at the level. -/
theorem getElem?_takeUnits (line units : Nat) (amounts : List Nat) (i : Nat) :
    (takeUnits line units amounts)[i]? = amounts[i]?.map fun n =>
      if 0 < line ∧ n = line ∧ (amounts.take i).count line < units then n - 1 else n := by
  induction amounts generalizing units i with
  | nil => cases units <;> rfl
  | cons amount rest ih =>
    cases units with
    | zero => simp [takeUnits]
    | succ units =>
      rw [takeUnits]
      by_cases here : 0 < line ∧ amount = line
      · rw [if_pos here]
        cases i with
        | zero => simp [here]
        | succ i => simp [ih, here]
      · rw [if_neg here]
        cases i with
        | zero =>
          have stays : ¬ (0 < line ∧ amount = line ∧ 0 < units + 1) := fun both =>
            here ⟨both.1, both.2.1⟩
          rw [List.getElem?_cons_zero, List.getElem?_cons_zero, Option.map_some]
          exact congrArg some (if_neg stays).symm
        | succ i =>
          by_cases positive : 0 < line
          · have apart : amount ≠ line := fun same => here ⟨positive, same⟩
            simp [ih, apart]
          · simp [ih, positive]

section LevelDown

variable (excess : Nat) (amounts : ByForce Nat)

/-- The amounts cut off at the level. -/
def cutOff : List Nat := amounts.toList.map (min · (line excess amounts))

/-- The units that the cut leaves to be taken. -/
def leftOver : Nat := excess - (amounts.toList.sum - (cutOff excess amounts).sum)

theorem levelDown_eq : levelDown excess amounts = tabulate amounts
    (takeUnits (line excess amounts) (leftOver excess amounts) (cutOff excess amounts)) := by
  rw [leftOver, cutOff, ← foldl_cut]
  rfl

/-- Whether a force at the level gives one more unit. -/
def Gives (f : Force) : Prop :=
  ((cutOff excess amounts).take f.index).count (line excess amounts) < leftOver excess amounts

/-- What stands before a force stands before a later one. -/
theorem Gives.earlier {f g : Force} (gives : Gives excess amounts g) (before : f.index ≤ g.index) :
    Gives excess amounts f :=
  Nat.lt_of_le_of_lt ((List.take_prefix_take_left before).sublist.count_le _) gives

open Classical in
/-- A force above the level is lowered to it, and the first ones at the level give one more unit. -/
theorem get_levelDown (f : Force) : (levelDown excess amounts).get f =
    if 0 < line excess amounts ∧ line excess amounts ≤ amounts.get f ∧ Gives excess amounts f then
      line excess amounts - 1
    else min (amounts.get f) (line excess amounts) := by
  have entry := ByForce.getElem?_toList (levelDown excess amounts) f
  rw [toList_levelDown, getElem?_takeUnits, List.getElem?_map, ByForce.getElem?_toList,
    Option.map_some, Option.map_some] at entry
  rw [← Option.some.inj entry]
  by_cases reaches : line excess amounts ≤ amounts.get f
  · rw [Nat.min_eq_right reaches]
    simp only [reaches, true_and, Gives, cutOff, leftOver]
  · have below : min (amounts.get f) (line excess amounts) ≠ line excess amounts := by omega
    rw [if_neg fun all => below all.2.1, if_neg fun all => reaches all.2.1]

theorem levelDown_levelled : Levelled amounts (levelDown excess amounts) := by
  have value := get_levelDown excess amounts
  have bound : ∀ f, (levelDown excess amounts).get f ≤ line excess amounts := by
    intro f
    rw [value f]
    split <;> omega
  refine ⟨get_levelDown_le excess amounts, fun f g touched => ?_, fun f g touched stands => ?_⟩
  · have within := bound g
    rw [value f] at touched ⊢
    split at touched <;> rename_i gives
    · rw [if_pos gives]
      omega
    · rw [if_neg gives]
      omega
  · have within := bound g
    -- the lower one has given a unit, and the higher one at the level has none to give
    have lower : 0 < line excess amounts ∧ line excess amounts ≤ amounts.get f ∧
        Gives excess amounts f := by
      by_contra keeps
      rw [value f, if_neg keeps] at touched stands
      omega
    rw [value f, if_pos lower] at stands
    have keeps : ¬ Gives excess amounts g := by
      intro gives
      rw [value g] at stands
      split at stands
      · omega
      · rename_i short
        exact short ⟨lower.1, by omega, gives⟩
    by_contra late
    exact keeps (lower.2.2.earlier _ _ (Nat.le_of_not_lt late))

theorem get_levelDown_of_lt {f : Force} (below : amounts.get f < line excess amounts) :
    (levelDown excess amounts).get f = amounts.get f := by
  rw [get_levelDown, if_neg fun all => absurd all.2.1 (Nat.not_le.mpr below)]
  omega

end LevelDown

theorem levelDown_eq_shave {excess : Nat} {amounts : ByForce Nat}
    (enough : excess ≤ amounts.toList.sum) : levelDown excess amounts = shave excess amounts := by
  refine (levelDown_levelled excess amounts).unique ((Levelled.refl amounts).shave excess) ?_
  rw [sum_levelDown enough, sum_shave]

/-! ### Every subtraction on the way -/

/-- The level, if a group is found and no subtraction on the way to it goes below zero. -/
def level? (excess : Nat) : Nat → Nat → List Nat → Option Nat
  | _, _, [] => none
  | size, held, amount :: rest =>
    ((held + amount).psub ((size + 1) * rest.headD 0)).bind fun room =>
      if excess ≤ room then
        ((held + amount).psub excess).map fun kept => (kept + size) / (size + 1)
      else level? excess (size + 1) (held + amount) rest

/-- Cuts amounts off at a level and counts what comes off against `excess`: the amounts, and what is
left of the excess. -/
def cutOff? (line : Nat) : Nat → List Nat → Option (List Nat × Nat)
  | excess, [] => some ([], excess)
  | excess, amount :: rest =>
    if line < amount then
      (amount.psub line).bind fun off => (excess.psub off).bind fun excess =>
        (cutOff? line excess rest).map fun lowered => (line :: lowered.1, lowered.2)
    else (cutOff? line excess rest).map fun lowered => (amount :: lowered.1, lowered.2)

/-- Takes a unit each from the first amounts at the level: the amounts, and how many units could not
be taken. -/
def takeUnits? (line : Nat) : Nat → List Nat → Option (List Nat × Nat)
  | units, [] => some ([], units)
  | 0, amounts => some (amounts, 0)
  | units + 1, amount :: rest =>
    if 0 < line ∧ amount = line then
      (amount.psub 1).bind fun less =>
        (takeUnits? line units rest).map fun taken => (less :: taken.1, taken.2)
    else (takeUnits? line (units + 1) rest).map fun taken => (amount :: taken.1, taken.2)

/-- Lowers the largest forces to a common level, if no subtraction goes below zero, a level is found
and no unit is left over. -/
def levelDown? (excess : Nat) (amounts : ByForce Nat) : Option (ByForce Nat) :=
  (level? excess 0 0 (amounts.toList.mergeSort fun a b => decide (b ≤ a))).bind fun line =>
    (cutOff? line excess amounts.toList).bind fun lowered =>
      (takeUnits? line lowered.2 lowered.1).bind fun taken =>
        if taken.2 = 0 then some (tabulate amounts taken.1) else none

/-- The amounts looked at hold at least the next one each. -/
theorem length_mul_headD_le {above rest : List Nat} {amount : Nat}
    (sorted : (above ++ amount :: rest).Pairwise (· ≥ ·)) :
    (above.length + 1) * rest.headD 0 ≤ above.sum + amount := by
  have one : (above ++ [amount]).length = above.length + 1 := by simp
  have held : (above ++ [amount]).sum = above.sum + amount := by simp
  rw [← one, ← held]
  refine length_mul_le_sum fun n member => ?_
  cases rest with
  | nil => exact Nat.zero_le n
  | cons next others =>
    rw [List.append_cons] at sorted
    exact (List.pairwise_append.mp sorted).2.2 n member next List.mem_cons_self

theorem level?_eq {excess : Nat} (positive : 0 < excess) {above rest : List Nat}
    (sorted : (above ++ rest).Pairwise (· ≥ ·))
    (short : above = [] ∨ above.sum - above.length * rest.headD 0 < excess)
    (enough : excess ≤ above.sum + rest.sum) :
    level? excess above.length above.sum rest =
      some (level excess above.length above.sum rest) := by
  refine level_induction (motive := fun above rest =>
    level? excess above.length above.sum rest =
      some (level excess above.length above.sum rest)) ?_ ?_ ?_ sorted short enough
  · intro zero
    omega
  · intro above amount rest sorted _ within
    have kept : excess ≤ above.sum + amount := Nat.le_trans within (Nat.sub_le _ _)
    rw [level?, level, Nat.psub_eq_sub (length_mul_headD_le sorted), Option.bind_some,
      if_pos within, if_pos within, Nat.psub_eq_sub kept]
    rfl
  · intro above amount rest sorted tight next
    rw [level?, level, Nat.psub_eq_sub (length_mul_headD_le sorted), Option.bind_some,
      if_neg tight, if_neg tight]
    simpa using next

theorem cutOff?_eq {line excess : Nat} {amounts : List Nat}
    (enough : amounts.sum ≤ (amounts.map (min · line)).sum + excess) :
    cutOff? line excess amounts = some (amounts.map (min · line),
      excess - (amounts.sum - (amounts.map (min · line)).sum)) := by
  induction amounts generalizing excess with
  | nil => rfl
  | cons amount rest ih =>
    have lowered := List.Forall₂.sum_le_sum (map_min_le line rest)
    simp only [List.map_cons, List.sum_cons] at enough ⊢
    rw [cutOff?]
    split
    · rename_i above
      have same : min amount line = line := by omega
      rw [same] at enough ⊢
      rw [Nat.psub_eq_sub above.le, Option.bind_some, Nat.psub_eq_sub (by omega), Option.bind_some,
        ih (by omega), Option.map_some]
      refine congrArg (fun left => some (line :: rest.map (min · line), left)) ?_
      omega
    · rename_i within
      have same : min amount line = amount := by omega
      rw [same] at enough ⊢
      rw [ih (by omega), Option.map_some]
      refine congrArg (fun left => some (amount :: rest.map (min · line), left)) ?_
      omega

theorem takeUnits?_eq {line units : Nat} {amounts : List Nat}
    (enough : units ≤ if 0 < line then amounts.count line else 0) :
    takeUnits? line units amounts = some (takeUnits line units amounts, 0) := by
  induction amounts generalizing units with
  | nil =>
    have none : units = 0 := by simpa using enough
    subst none
    rfl
  | cons amount rest ih =>
    cases units with
    | zero => rfl
    | succ units =>
      rw [takeUnits?, takeUnits]
      split
      · rename_i here
        have positive : 1 ≤ amount := here.2 ▸ here.1
        rw [Nat.psub_eq_sub positive, Option.bind_some, ih (enough_later_of_level enough here)]
        rfl
      · rename_i elsewhere
        rw [ih (enough_later_of_not_level enough elsewhere)]
        rfl

theorem levelDown?_eq {excess : Nat} {amounts : ByForce Nat} (positive : 0 < excess)
    (enough : excess ≤ amounts.toList.sum) :
    levelDown? excess amounts = some (levelDown excess amounts) := by
  have descending := mergeSort_descending amounts.toList
  have same := List.mergeSort_perm amounts.toList fun a b : Nat => decide (b ≤ a)
  have found := @level?_eq excess positive [] (amounts.toList.mergeSort fun a b => decide (b ≤ a))
    (by simpa using descending) (.inl rfl) (by rw [same.sum_nat]; simpa using enough)
  obtain ⟨kept, rest⟩ := line_levels enough
  have lowered := List.Forall₂.sum_le_sum (map_min_le (line excess amounts) amounts.toList)
  have taken := @takeUnits?_eq (line excess amounts) (leftOver excess amounts)
    (cutOff excess amounts) (by unfold leftOver cutOff; omega)
  rw [List.length_nil, List.sum_nil, ← line] at found
  rw [levelDown?, found, Option.bind_some, cutOff?_eq kept, Option.bind_some]
  change (takeUnits? (line excess amounts) (leftOver excess amounts)
    (cutOff excess amounts)).bind _ = _
  rw [taken, Option.bind_some, if_pos rfl, levelDown_eq]

/-! ### The cap of the total -/

/-- The amounts that the caps of the forces leave. -/
def underCaps (pool : Pool) : ByForce Nat :=
  .ofFn fun f => capped (pool.hardCap? f) (pool.amount f)

/-- What the caps of the forces leave is brought down to the cap of the total. -/
theorem clamp_total {pool : Pool} {cap : Nat} (limit : pool.totalCap? = some cap) :
    pool.clamp.total = min (wrappingSum pool.underCaps.toList) cap := by
  unfold clamp total
  rw [limit]
  dsimp only
  change wrappingSum (ByForce.toList (if 0 < wrappingSum pool.underCaps.toList - cap then
    levelDown (wrappingSum pool.underCaps.toList - cap) pool.underCaps else pool.underCaps)) = _
  split
  · exact wrappingSum_levelDown _ cap
  · omega

theorem clamp_amount_le_underCaps (pool : Pool) (f : Force) :
    pool.clamp.amount f ≤ pool.underCaps.get f := by
  rw [underCaps, ByForce.get_ofFn]
  exact pool.clamp_amount_le_capped f

/-- Lowering the largest forces to a common level comes to the same as taking one unit after another
from the largest force, the one declared first of equals. No subtraction on the way goes below zero,
a level is always found, exactly the excess comes off, enough forces stand at the level for the units
that do not divide evenly, and no force below the level is touched. So the total that the caps of the
forces leave, if it fits in 32 bits, is brought down to the cap of the total whenever it is above
it. -/
theorem level_down_unit_by_unit (amounts : ByForce Nat) {excess : Nat} (positive : 0 < excess)
    (enough : excess ≤ amounts.toList.sum) :
    levelDown excess amounts = shave excess amounts ∧
      levelDown? excess amounts = some (levelDown excess amounts) ∧
      (levelDown excess amounts).toList.sum + excess = amounts.toList.sum ∧
      (leftOver excess amounts = 0 ∨ 0 < line excess amounts ∧
        leftOver excess amounts ≤ (cutOff excess amounts).count (line excess amounts)) ∧
      (∀ f, amounts.get f < line excess amounts → (levelDown excess amounts).get f = amounts.get f) ∧
      ∀ (pool : Pool) (cap : Nat), pool.totalCap? = some cap →
        pool.underCaps.toList.sum < Text.wordBound → cap < pool.underCaps.toList.sum →
          pool.clamp.total = cap ∧ pool.clamp.amounts.toList.sum = cap := by
  refine ⟨levelDown_eq_shave enough, levelDown?_eq positive enough, ?_, ?_, ?_, ?_⟩
  · rw [sum_levelDown enough]
    omega
  · obtain ⟨kept, rest⟩ := line_levels enough
    have lowered := List.Forall₂.sum_le_sum (map_min_le (line excess amounts) amounts.toList)
    unfold leftOver cutOff
    split at rest
    · rename_i positive
      exact .inr ⟨positive, by omega⟩
    · exact .inl (by omega)
  · intro f below
    exact get_levelDown_of_lt excess amounts below
  · intro pool cap limit fits above
    have total : pool.clamp.total = cap := by
      rw [clamp_total limit, wrappingSum_of_lt fits]
      omega
    have after : pool.clamp.Fits :=
      Nat.lt_of_le_of_lt (ByForce.sum_toList_le pool.clamp_amount_le_underCaps) fits
    exact ⟨total, after.total_eq.symm.trans total⟩

/-- Eight units come off three of the forces, the odd one off the first of them. -/
theorem level_down_unit_by_unit_odd :
    0 < 8 ∧ 8 ≤ (⟨9, 5, 5, 2, 0⟩ : ByForce Nat).toList.sum ∧
      levelDown 8 ⟨9, 5, 5, 2, 0⟩ = ⟨3, 4, 4, 2, 0⟩ ∧
      levelDown? 8 ⟨9, 5, 5, 2, 0⟩ = some ⟨3, 4, 4, 2, 0⟩ := by
  obtain ⟨same, checked, _⟩ := level_down_unit_by_unit ⟨9, 5, 5, 2, 0⟩
    (show 0 < 8 by decide) (by decide)
  have shaved : shave 8 ⟨9, 5, 5, 2, 0⟩ = ⟨3, 4, 4, 2, 0⟩ := by decide
  exact ⟨by decide, by decide, same.trans shaved, checked.trans (congrArg some (same.trans shaved))⟩

end Pool

end Gremlin
