import Gremlin.Proofs.Pool.Shaving

set_option autoImplicit false

/-!
What sticks of a gain. It is as much as fits under the hard cap of the force and under the cap of
the total; the total grows by just that, and if the cap of the total lets the whole gain in, so does
the force. Otherwise the excess comes off the largest forces, whichever these are.
-/

namespace Gremlin

namespace ByForce

theorem sum_set (v : ByForce Nat) (f : Force) (n : Nat) :
    (v.set f n).toList.sum + v.get f = v.toList.sum + n := by
  cases f <;> simp only [set, get, toList, List.sum_cons, List.sum_nil] <;> omega

theorem get_le_sum (v : ByForce Nat) (f : Force) : v.get f ≤ v.toList.sum := by
  have emptied := v.sum_set f 0
  omega

end ByForce

namespace Pool

/-- What a cap leaves beside what is held already. -/
def room (cap : Option Nat) (held : Nat) : Option Nat := cap.map (· - held)

/-- How much of a gain fits under the hard cap of its force. -/
def fitsForce (pool : Pool) (f : Force) (n : Nat) : Nat :=
  capped (room (pool.hardCap? f) (pool.amount f)) n

/-- How much of a gain fits under the hard cap of its force and under the cap of the total. -/
def fitsAll (pool : Pool) (f : Force) (n : Nat) : Nat :=
  capped (room pool.totalCap? pool.total) (pool.fitsForce f n)

/-- A pool with more of a force, before any cap is enforced. -/
def raised (pool : Pool) (f : Force) (n : Nat) : Pool :=
  { pool with amounts := pool.amounts.set f (saturatingAdd (pool.amount f) n) }

/-- Where nothing is over the cap of the total only the caps of the forces are enforced. -/
theorem clamp_amounts_of_within {pool : Pool}
    (within : ∀ cap, pool.totalCap? = some cap → wrappingSum pool.underCaps.toList ≤ cap) :
    pool.clamp.amounts = pool.underCaps := by
  unfold clamp
  dsimp only
  split
  · rename_i cap limit
    have within := within cap limit
    apply if_neg
    change ¬ 0 < wrappingSum pool.underCaps.toList - cap
    omega
  · rfl

section Gain

variable {pool : Pool} {f : Force} {n : Nat}

theorem Fits.amount_le_total (fits : pool.Fits) (f : Force) : pool.amount f ≤ pool.total := by
  rw [fits.total_eq]
  exact pool.amounts.get_le_sum f

theorem gain_fst (pool : Pool) (f : Force) (n : Nat) :
    (pool.gain f n).1 = (pool.raised f n).clamp := rfl

theorem gain_amount_other_le (pool : Pool) (n : Nat) {g : Force} (other : g ≠ f) :
    (pool.gain f n).1.amount g ≤ pool.amount g := by
  have kept : (pool.raised f n).amount g = pool.amount g := ByForce.get_set_other _ _ other
  rw [gain_fst, ← kept]
  exact (pool.raised f n).clamp_amount_le g

variable (fits : pool.Fits) (held : pool.Capped)
  (small : pool.total + pool.fitsForce f n < Text.wordBound)

include fits held small

/-- The caps of the forces leave what was there, and of the gain what fits under its force's. -/
theorem underCaps_raised :
    (pool.raised f n).underCaps = pool.amounts.set f (pool.amount f + pool.fitsForce f n) := by
  apply ByForce.ext_get
  intro g
  rw [underCaps, ByForce.get_ofFn]
  by_cases same : g = f
  · subst same
    have gained : (pool.raised g n).amount g = saturatingAdd (pool.amount g) n :=
      ByForce.get_set_same ..
    have part := fits.amount_le_total g
    rw [gained, ByForce.get_set_same]
    change capped (pool.hardCap? g) _ = _
    unfold fitsForce at small ⊢
    cases limit : pool.hardCap? g with
    | none =>
      simp only [limit, room, Option.map_none, capped, saturatingAdd] at small ⊢
      omega
    | some cap =>
      have within := held.force g cap limit
      simp only [limit, room, Option.map_some, capped, saturatingAdd] at small ⊢
      omega
  · have kept : (pool.raised f n).amount g = pool.amount g := ByForce.get_set_other _ _ same
    rw [kept, ByForce.get_set_other _ _ same]
    change capped (pool.hardCap? g) (pool.amount g) = pool.amount g
    cases limit : pool.hardCap? g with
    | none => rfl
    | some cap => exact Nat.min_eq_left (held.force g cap limit)

theorem sum_underCaps_raised :
    (pool.raised f n).underCaps.toList.sum = pool.total + pool.fitsForce f n := by
  have replaced := pool.amounts.sum_set f (pool.amount f + pool.fitsForce f n)
  rw [underCaps_raised fits held small, fits.total_eq]
  change _ + pool.amount f = _ at replaced
  omega

theorem wrappingSum_underCaps_raised :
    wrappingSum (pool.raised f n).underCaps.toList = pool.total + pool.fitsForce f n := by
  have left := sum_underCaps_raised fits held small
  rw [wrappingSum_of_lt (left ▸ small), left]

theorem gain_fits : (pool.gain f n).1.Fits := by
  refine Nat.lt_of_le_of_lt (ByForce.sum_toList_le (pool.raised f n).clamp_amount_le_underCaps) ?_
  rw [sum_underCaps_raised fits held small]
  exact small

theorem total_gain : (pool.gain f n).1.total = pool.total + pool.fitsAll f n := by
  have left := wrappingSum_underCaps_raised fits held small
  rw [gain_fst, fitsAll]
  cases limit : pool.totalCap? with
  | none =>
    rw [total, clamp_amounts_of_within, left]
    · rfl
    · intro cap given
      exact absurd (given.symm.trans limit) (Option.some_ne_none cap)
  | some cap =>
    have within := held.total cap limit
    have limited : (pool.raised f n).totalCap? = some cap := limit
    rw [clamp_total limited, left]
    simp only [room, Option.map_some, capped]
    omega

theorem amounts_gain
    (within : ∀ cap, pool.totalCap? = some cap → pool.total + pool.fitsForce f n ≤ cap) :
    (pool.gain f n).1.amounts = pool.amounts.set f (pool.amount f + pool.fitsForce f n) := by
  rw [gain_fst, clamp_amounts_of_within, underCaps_raised fits held small]
  intro cap limit
  rw [wrappingSum_underCaps_raised fits held small]
  exact within cap limit

end Gain

/-- Whatever was done with a pool before, as long as the amounts fit, a gain that fits too tells how
much of it does so under the caps: no more than is gained, than the hard cap of the force leaves and
than the cap of the total leaves, both of which hold beforehand. The total grows by it and no other
force grows. If all that the hard cap lets in fits under the cap of the total, the force grows by it
and the others stay. -/
theorem gain_tells_what_fits {initial : List (Force × Nat)} {operations : List Operation}
    (contained : (new initial).FitsThroughout operations) (f : Force) (n : Nat) :
    let pool := ((new initial).runAll operations).1
    let after := (pool.gain f n).1
    let gained := (pool.gain f n).2
    pool.total + pool.fitsForce f n < Text.wordBound →
    (∀ cap, pool.hardCap? f = some cap → pool.amount f ≤ cap) ∧
    (∀ cap, pool.totalCap? = some cap → pool.total ≤ cap) ∧
    gained = pool.fitsAll f n ∧
    after.total = pool.total + gained ∧ after.Fits ∧
    (∀ g, g ≠ f → after.amount g ≤ pool.amount g) ∧
    ((∀ cap, pool.totalCap? = some cap → pool.total + pool.fitsForce f n ≤ cap) →
      (∀ g, g ≠ f → after.amount g = pool.amount g) ∧ after.amount f = pool.amount f + gained) := by
  intro pool after gained small
  have fits : pool.Fits := contained.last
  have held : pool.Capped := runAll_capped contained (.of_new initial)
  have total := total_gain fits held small
  have told : gained = pool.fitsAll f n := by
    change (pool.gain f n).1.total - pool.total = _
    omega
  refine ⟨held.force f, held.total, told, told ▸ total, gain_fits fits held small,
    fun g other => gain_amount_other_le pool n other, fun within => ?_⟩
  have amounts := amounts_gain fits held small within
  have whole : gained = pool.fitsForce f n := by
    rw [told, fitsAll]
    cases limit : pool.totalCap? with
    | none => rfl
    | some cap =>
      have room := within cap limit
      simp only [Pool.room, Option.map_some, capped]
      omega
  refine ⟨fun g other => ?_, ?_⟩
  · rw [amount, amounts, ByForce.get_set_other _ _ other]
    rfl
  · rw [amount, amounts, ByForce.get_set_same, whole]

/-- Of seven the hard cap lets six in and the cap of the total two; the excess comes off both. -/
theorem gain_tells_what_fits_full :
    let pool := ((new [(.heat, 4), (.precision, 9)]).runAll
      [.installHardCap .heat ⟨10, .permanent, none⟩, .installTotalCap ⟨15, .permanent, none⟩]).1
    pool.total + pool.fitsForce .heat 7 < Text.wordBound ∧ pool.fitsForce .heat 7 = 6 ∧
      (pool.gain .heat 7).2 = 2 ∧ (pool.gain .heat 7).1.total = 15 ∧
      (pool.gain .heat 7).1.amount .precision ≤ 9 := by
  intro pool
  have contained : (new [(.heat, 4), (.precision, 9)]).FitsThroughout
      [.installHardCap .heat ⟨10, .permanent, none⟩, .installTotalCap ⟨15, .permanent, none⟩] := by
    decide
  have small : pool.total + pool.fitsForce .heat 7 < Text.wordBound := by decide
  have fits : pool.fitsAll .heat 7 = 2 := by decide
  obtain ⟨_, _, gained, total, _, others, _⟩ := gain_tells_what_fits contained .heat 7 small
  refine ⟨small, by decide, gained.trans fits, ?_, others .precision (by decide)⟩
  rw [total, gained]
  exact congrArg (pool.total + ·) fits

end Pool

end Gremlin
