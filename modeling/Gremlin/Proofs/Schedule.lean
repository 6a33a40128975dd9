import Gremlin.Proofs.Template
import Gremlin.Schedule

set_option autoImplicit false

/-!
What the choice of a next move leaves alone, and that it names a move the template has.
-/

namespace Gremlin

open Gremlin.Random (Generator)

namespace Schedule

theorem mem_candidates {current count index : Nat} :
    index ∈ candidates current count ↔ index < count ∧ index ≠ current := by
  simp [candidates]

theorem candidates_ne_nil {current count : Nat} (several : 1 < count) :
    candidates current count ≠ [] := by
  intro none
  have first : 0 ∈ candidates current count ∨ 1 ∈ candidates current count := by
    rw [mem_candidates, mem_candidates]
    omega
  rw [none] at first
  rcases first with member | member <;> cases member

theorem atRoll_cons_cons (weightOf : Nat → Nat) (roll first second : Nat) (others : List Nat) :
    atRoll weightOf roll (first :: second :: others) =
      if roll < weightOf first then first
      else atRoll weightOf (roll - weightOf first) (second :: others) := rfl

theorem atRoll_mem (weightOf : Nat → Nat) (roll : Nat) {indices : List Nat} (some : indices ≠ []) :
    atRoll weightOf roll indices ∈ indices := by
  induction indices generalizing roll with
  | nil => exact absurd rfl some
  | cons first rest ih =>
    cases rest with
    | nil => exact List.mem_cons_self
    | cons second others =>
      rw [atRoll_cons_cons]
      split
      · exact List.mem_cons_self
      · exact List.mem_cons_of_mem _ (ih _ (List.cons_ne_nil second others))

theorem weightedPick_lt (weights : List Nat) (current : Nat) {count : Nat} (some : 0 < count)
    (generator : Generator) : (weightedPick weights current count generator).1 < count := by
  unfold weightedPick
  split
  · exact some
  · rename_i several
    dsimp only
    split
    · cases drawn : (candidates current count)[(generator.below _).1]? with
      | none => exact some
      | some index => exact (mem_candidates.mp (List.mem_of_getElem? drawn)).1
    · exact (mem_candidates.mp (atRoll_mem _ _ (candidates_ne_nil (by omega)))).1

end Schedule

namespace Instance

/-- Choosing the next move changes nothing on a gremlin but what it has observed. -/
theorem nextMove_gremlin (gremlin : Instance) (generator : Generator) :
    ∃ observed, (gremlin.nextMove generator).2.1 = { gremlin with observed } := by
  unfold nextMove
  dsimp only
  split
  · exact ⟨_, rfl⟩
  · split
    · exact ⟨_, rfl⟩
    · exact ⟨_, rfl⟩
    · exact ⟨_, rfl⟩
    · split
      · split <;> exact ⟨_, rfl⟩
      · exact ⟨_, rfl⟩
    · exact ⟨_, rfl⟩
    · split
      · exact ⟨_, rfl⟩
      · split <;> exact ⟨_, rfl⟩

/-- What does not look at what a gremlin has observed stays as it is. -/
theorem nextMove_view {β : Type} (view : Instance → β) (gremlin : Instance)
    (generator : Generator) (blind : ∀ observed, view { gremlin with observed } = view gremlin) :
    view (gremlin.nextMove generator).2.1 = view gremlin := by
  obtain ⟨observed, same⟩ := gremlin.nextMove_gremlin generator
  rw [same, blind]

theorem explicitNext?_eq_some {gremlin : Instance} {next : Nat}
    (given : gremlin.explicitNext? = some next) :
    ∃ move ∈ gremlin.template.moves, ∃ transition, gremlin.currentMove? = some move ∧
      move.transition = some transition ∧ transition.next = next := by
  rw [explicitNext?, Option.map_eq_some_iff] at given
  obtain ⟨transition, bound, rfl⟩ := given
  obtain ⟨move, current, belongs⟩ := Option.bind_eq_some_iff.mp bound
  exact ⟨move, List.mem_of_getElem? current, transition, current, belongs, rfl⟩

theorem explicitNext?_lt {gremlin : Instance} (sound : gremlin.template.Sound) {next : Nat}
    (given : gremlin.explicitNext? = some next) : next < gremlin.template.moves.length := by
  obtain ⟨move, member, transition, _, belongs, rfl⟩ := explicitNext?_eq_some given
  exact sound.next_lt move member transition belongs

theorem moveForHealth_lt {gremlin : Instance} (some : 0 < gremlin.template.moves.length) :
    gremlin.moveForHealth < gremlin.template.moves.length := by
  unfold moveForHealth
  dsimp only
  cases last : List.getLast? _ with
  | none => exact some
  | some index =>
    have member := List.mem_of_getLast? last
    exact List.mem_range.mp (List.mem_filter.mp member).1

/-- A gremlin of a sound template is sent to moves it has. -/
theorem nextMove_lt {gremlin : Instance} (sound : gremlin.template.Sound) {generator : Generator}
    {index : Nat} (next : (gremlin.nextMove generator).1 = some index) :
    index < gremlin.template.moves.length := by
  unfold nextMove at next
  dsimp only at next
  split at next
  · cases next
  · rename_i nonzero
    have positive : 0 < gremlin.template.moves.length := Nat.pos_of_ne_zero nonzero
    split at next
    · cases next
    · rw [Option.ite_none_right_eq_some, Bool.and_eq_true, decide_eq_true_eq] at next
      obtain ⟨⟨_, inside, _⟩, same⟩ := next
      cases same
      exact inside
    · rw [Option.ite_none_right_eq_some] at next
      obtain ⟨_, same⟩ := next
      cases same
      cases given : gremlin.explicitNext? with
      | none => exact Nat.mod_lt _ positive
      | some next => exact explicitNext?_lt sound given
    · split at next
      · split at next <;> cases next
        · rename_i given
          exact explicitNext?_lt sound given
        · exact Schedule.weightedPick_lt _ _ positive _
      · cases next
    · rw [Option.ite_none_right_eq_some] at next
      obtain ⟨_, same⟩ := next
      cases same
      exact moveForHealth_lt positive
    · split at next
      · cases next
      · split at next
        · rw [Option.ite_none_right_eq_some] at next
          obtain ⟨⟨inside, _⟩, same⟩ := next
          cases same
          exact inside
        · cases next

end Instance

end Gremlin
