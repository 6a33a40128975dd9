import Gremlin.Random.Generator

set_option autoImplicit false

/-!
Draws: a number drawn below another is below it, and one of some values is drawn unless there is
none.
-/

namespace Gremlin.Random.Generator

theorem word_lt (g : Generator) : g.word.1 < 0x100000000 := UInt32.toNat_lt _

/-- The carry cannot reach the last number: a draw leaves room for it only below that. -/
theorem scaled_lt {bound n : Nat} {draw : Generator → Nat × Generator}
    (drawn : ∀ g, (draw g).1 < bound) (some : 0 < n) (g : Generator) :
    (g.scaled bound draw n).1 < n := by
  have first : (draw g).1 * n + n ≤ bound * n := by
    rw [← Nat.succ_mul]
    exact Nat.mul_le_mul_right n (drawn g)
  have parts : bound * ((draw g).1 * n / bound) + (draw g).1 * n % bound = (draw g).1 * n :=
    Nat.div_add_mod _ _
  have high : (draw g).1 * n / bound < n := Nat.div_lt_of_lt_mul (by omega)
  have carried : bound - n < (draw g).1 * n % bound → (draw g).1 * n / bound + 1 < n := by
    intro rest
    refine Nat.lt_of_not_le fun last => ?_
    have at_last : (draw g).1 * n / bound = n - 1 := by omega
    have whole : bound * (n - 1) + bound = bound * n := by
      rw [← Nat.mul_succ, Nat.succ_eq_add_one, Nat.sub_add_cancel some]
    rw [at_last] at parts
    omega
  unfold scaled
  dsimp only
  split
  · rename_i rest
    dsimp only
    split
    · exact carried rest
    · exact high
  · exact high

theorem below_lt {n : Nat} (some : 0 < n) (g : Generator) : (g.below n).1 < n :=
  scaled_lt word_lt some g

theorem long_lt (g : Generator) : g.long.1 < 0x10000000000000000 := by
  have low : g.key.word g.position < 0x100000000 := UInt32.toNat_lt _
  have high : g.key.word (g.position + 1) < 0x100000000 := UInt32.toNat_lt _
  change g.key.word g.position + g.key.word (g.position + 1) * 0x100000000 < _
  omega

theorem belowLong_lt {n : Nat} (some : 0 < n) (g : Generator) : (g.belowLong n).1 < n :=
  scaled_lt long_lt some g

section Choose

variable {α : Type} {g : Generator} {values : List α}

theorem mem_of_choose {value : α} (chosen : (g.choose values).1 = some value) :
    value ∈ values := by
  cases values with
  | nil => cases chosen
  | cons first rest => exact List.mem_of_getElem? chosen

theorem eq_nil_of_choose (nothing : (g.choose values).1 = none) : values = [] := by
  cases values with
  | nil => rfl
  | cons first rest =>
    have beyond : (first :: rest).length ≤ (g.below (first :: rest).length).1 :=
      List.getElem?_eq_none_iff.mp nothing
    exact absurd (below_lt (Nat.succ_pos _) g) (Nat.not_lt.mpr beyond)

end Choose

end Gremlin.Random.Generator
