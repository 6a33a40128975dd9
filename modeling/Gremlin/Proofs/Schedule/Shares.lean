import Gremlin.Proofs.Random
import Gremlin.Proofs.Schedule
import Mathlib.Algebra.Order.Ring.Nat
import Mathlib.Data.Set.Function

set_option autoImplicit false

/-!
How the draw of a next move is shared out. The candidates stand in a line, each as often as it
weighs, and every roll below the total weight falls on one of them; so each candidate has as many
rolls as it weighs. Where nobody weighs anything each candidate has one draw.
-/

namespace Gremlin.Schedule

open Gremlin.Random (Generator)

/-- The candidates in a line, each as often as it weighs. -/
def line (weightOf : Nat → Nat) (indices : List Nat) : List Nat :=
  indices.flatMap fun index => List.replicate (weightOf index) index

/-- The candidate a roll falls on when the weights are taken off it one after another; none if the
roll outlasts them all. -/
def scan? (weightOf : Nat → Nat) : Nat → List Nat → Option Nat
  | _, [] => none
  | roll, candidate :: rest =>
    if roll < weightOf candidate then some candidate
    else scan? weightOf (roll - weightOf candidate) rest

section Line

variable (weightOf : Nat → Nat)

theorem line_cons (first : Nat) (rest : List Nat) :
    line weightOf (first :: rest) =
      List.replicate (weightOf first) first ++ line weightOf rest :=
  List.flatMap_cons

theorem length_line (indices : List Nat) :
    (line weightOf indices).length = (indices.map weightOf).sum := by
  induction indices with
  | nil => rfl
  | cons first rest ih =>
    rw [line_cons, List.length_append, List.length_replicate, ih, List.map_cons, List.sum_cons]

theorem mem_line {index : Nat} {indices : List Nat} :
    index ∈ line weightOf indices ↔ index ∈ indices ∧ 0 < weightOf index := by
  simp only [line, List.mem_flatMap, List.mem_replicate]
  constructor
  · rintro ⟨other, member, some, rfl⟩
    exact ⟨member, Nat.pos_of_ne_zero some⟩
  · rintro ⟨member, positive⟩
    exact ⟨index, member, Nat.ne_of_gt positive, rfl⟩

/-- Nobody else stands in a candidate's part of the line. -/
theorem count_line {index : Nat} {indices : List Nat} (distinct : indices.Nodup)
    (member : index ∈ indices) : (line weightOf indices).count index = weightOf index := by
  induction indices with
  | nil => cases member
  | cons first rest ih =>
    obtain ⟨fresh, others⟩ := List.nodup_cons.mp distinct
    rw [line_cons, List.count_append]
    rcases List.mem_cons.mp member with rfl | later
    · have absent : index ∉ line weightOf rest := fun present =>
        fresh ((mem_line weightOf).mp present).1
      rw [List.count_replicate_self, List.count_eq_zero.mpr absent, Nat.add_zero]
    · have apart : first ≠ index := fun same => fresh (same ▸ later)
      rw [ih others later, List.count_replicate, if_neg (by simpa using apart), Nat.zero_add]

/-- The scan finds what stands in the line at the roll. -/
theorem scan?_eq_getElem? (roll : Nat) (indices : List Nat) :
    scan? weightOf roll indices = (line weightOf indices)[roll]? := by
  induction indices generalizing roll with
  | nil => rfl
  | cons first rest ih =>
    rw [scan?, line_cons]
    split
    · rename_i within
      rw [List.getElem?_append_left (by simpa using within), List.getElem?_replicate, if_pos within]
    · rename_i beyond
      rw [List.getElem?_append_right (by simpa using beyond), List.length_replicate, ih]

/-- A roll that falls on somebody never comes to the last candidate by default. -/
theorem atRoll_of_scan? {roll index : Nat} {indices : List Nat}
    (found : scan? weightOf roll indices = some index) : atRoll weightOf roll indices = index := by
  induction indices generalizing roll with
  | nil => cases found
  | cons first rest ih =>
    rw [scan?] at found
    split at found
    · rename_i within
      cases rest with
      | nil => exact Option.some.inj found
      | cons second others => rw [atRoll_cons_cons, if_pos within, Option.some.inj found]
    · rename_i beyond
      cases rest with
      | nil => cases found
      | cons second others => rw [atRoll_cons_cons, if_neg beyond, ih found]

theorem scan?_eq_atRoll {roll : Nat} {indices : List Nat}
    (within : roll < (indices.map weightOf).sum) :
    scan? weightOf roll indices = some (atRoll weightOf roll indices) := by
  rw [← length_line] at within
  have found := (scan?_eq_getElem? weightOf roll indices).trans (List.getElem?_eq_getElem within)
  rw [found, atRoll_of_scan? weightOf found]

/-- The rolls one after another go along the line. -/
theorem map_atRoll_range (indices : List Nat) :
    (List.range (indices.map weightOf).sum).map (atRoll weightOf · indices) =
      line weightOf indices := by
  apply List.ext_getElem?
  intro roll
  rw [← scan?_eq_getElem?, List.getElem?_map]
  by_cases within : roll < (indices.map weightOf).sum
  · rw [List.getElem?_range within, Option.map_some, scan?_eq_atRoll weightOf within]
  · have beyond : (line weightOf indices).length ≤ roll := by
      rw [length_line]
      omega
    rw [scan?_eq_getElem?, List.getElem?_eq_none beyond,
      List.getElem?_eq_none (by simpa using within), Option.map_none]

theorem length_filter_atRoll {index : Nat} {indices : List Nat} (distinct : indices.Nodup)
    (member : index ∈ indices) :
    ((List.range (indices.map weightOf).sum).filter
      (atRoll weightOf · indices = index)).length = weightOf index := by
  rw [← count_line weightOf distinct member, ← map_atRoll_range, List.count, List.countP_map,
    List.countP_eq_length_filter]
  rfl

theorem atRoll_mem_line {roll : Nat} {indices : List Nat}
    (within : roll < (indices.map weightOf).sum) :
    atRoll weightOf roll indices ∈ line weightOf indices := by
  have found := scan?_eq_atRoll weightOf within
  rw [scan?_eq_getElem?] at found
  exact List.mem_of_getElem? found

end Line

theorem candidates_nodup (current count : Nat) : (candidates current count).Nodup :=
  List.nodup_range.filter _

/-- The places of a list are taken to its members, each once. -/
theorem bijOn_getElem? {indices : List Nat} (distinct : indices.Nodup) :
    Set.BijOn (fun place => indices[place]?.getD 0) {place | place < indices.length}
      {index | index ∈ indices} := by
  have value : ∀ {place} (inside : place < indices.length), indices[place]?.getD 0 = indices[place] :=
    fun inside => by rw [List.getElem?_eq_getElem inside, Option.getD_some]
  refine ⟨fun place inside => ?_, fun place inside other inside' same => ?_, fun index member => ?_⟩
  · dsimp only
    rw [value inside]
    exact List.getElem_mem inside
  · dsimp only at same
    rw [value inside, value inside'] at same
    exact (List.getElem_inj distinct).mp same
  · obtain ⟨place, inside, found⟩ := List.getElem_of_mem member
    exact ⟨place, inside, (value inside).trans found⟩

/-- Of the rolls below the total weight each candidate has exactly as many as it weighs: none falls
on the current move, on a move that does not exist or on one without weight, and none outlasts the
weights. If nobody weighs anything the draws are the candidates one by one. The generator gives
such a roll or draw. -/
theorem weightedPick_shares (weights : List Nat) (current : Nat) {count : Nat} (several : 2 ≤ count) :
    let candidates := candidates current count
    let total := (candidates.map (weight weights)).sum
    (0 < total →
      (∀ g : Generator, (g.belowLong total).1 < total ∧ (weightedPick weights current count g).1 =
        atRoll (weight weights) (g.belowLong total).1 candidates) ∧
      (∀ index ∈ candidates, ((List.range total).filter
        (atRoll (weight weights) · candidates = index)).length = weight weights index) ∧
      ∀ roll < total, ∃ index, atRoll (weight weights) roll candidates = index ∧
        scan? (weight weights) roll candidates = some index ∧
        index < count ∧ index ≠ current ∧ 0 < weight weights index) ∧
    (total = 0 →
      (∀ g : Generator, (g.below candidates.length).1 < candidates.length ∧
        (weightedPick weights current count g).1 =
          candidates[(g.below candidates.length).1]?.getD 0) ∧
      Set.BijOn (fun drawn => candidates[drawn]?.getD 0) {drawn | drawn < candidates.length}
        {index | index < count ∧ index ≠ current}) := by
  have distinct := candidates_nodup current count
  have choice : ¬ count ≤ 1 := by omega
  have whole : ((candidates current count).map (weight weights)).foldl (· + ·) 0 =
      ((candidates current count).map (weight weights)).sum := List.sum_eq_foldl.symm
  refine ⟨fun positive => ⟨fun g => ⟨Generator.belowLong_lt positive g, ?_⟩,
    fun index member => length_filter_atRoll _ distinct member, fun roll within => ?_⟩,
    fun nothing => ⟨fun g => ⟨Generator.below_lt ?_ g, ?_⟩, ?_⟩⟩
  · rw [weightedPick, if_neg choice]
    dsimp only
    rw [whole]
    exact congrArg Prod.fst (if_neg (Nat.ne_of_gt positive))
  · obtain ⟨member, heavy⟩ := (mem_line _).mp (atRoll_mem_line (weight weights) within)
    obtain ⟨inside, apart⟩ := mem_candidates.mp member
    exact ⟨_, rfl, scan?_eq_atRoll _ within, inside, apart, heavy⟩
  · exact List.length_pos_iff.mpr (candidates_ne_nil several)
  · rw [weightedPick, if_neg choice]
    dsimp only
    rw [whole]
    exact congrArg Prod.fst (if_pos nothing)
  · have members : {index | index ∈ candidates current count} =
        {index | index < count ∧ index ≠ current} := by
      ext index
      exact mem_candidates
    rw [← members]
    exact bijOn_getElem? distinct

/-- Of three candidates the first weighs nothing and the last is given no weight. -/
theorem weightedPick_shares_short :
    2 ≤ 4 ∧ 0 < ((candidates 0 4).map (weight [9, 0, 3])).sum ∧
      ((List.range 3).filter (atRoll (weight [9, 0, 3]) · (candidates 0 4) = 2)).length = 3 ∧
      ((List.range 3).filter (atRoll (weight [9, 0, 3]) · (candidates 0 4) = 3)).length = 0 := by
  obtain ⟨_, shares, _⟩ := (weightedPick_shares [9, 0, 3] 0 (show 2 ≤ 4 by decide)).1 (by decide)
  exact ⟨by decide, by decide, shares 2 (by decide), shares 3 (by decide)⟩

end Gremlin.Schedule
