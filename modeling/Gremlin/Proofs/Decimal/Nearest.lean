import Gremlin.Decimal.Binary
import Mathlib.Algebra.Order.Ring.Nat

set_option autoImplicit false

/-!
Rounding to a binary format depends on the ratio alone and leaves the format's own numbers as they
are.
-/

namespace Gremlin.Decimal

theorem BinaryFraction.num_eq (x : BinaryFraction) :
    x.num = x.mantissa * 2 ^ x.exponent.toNat := rfl

theorem BinaryFraction.den_eq (x : BinaryFraction) : x.den = 2 ^ (-x.exponent).toNat := rfl

section HalfEven

theorem halfEven_mul {factor : Nat} (positive : 0 < factor) (num den : Nat) :
    halfEven (factor * num) (factor * den) = halfEven num den := by
  have twice : 2 * (factor * (num % den)) = factor * (2 * (num % den)) := by
    rw [Nat.mul_left_comm]
  unfold halfEven
  simp only [Nat.mul_div_mul_left _ _ positive, Nat.mul_mod_mul_left, twice,
    Nat.mul_lt_mul_left positive]

theorem halfEven_exact {den : Nat} (positive : 0 < den) (quotient : Nat) :
    halfEven (quotient * den) den = quotient := by
  unfold halfEven
  simp [Nat.mul_div_cancel _ positive, positive]

theorem halfEven_le {num den bound : Nat} (below : num < den * bound) :
    halfEven num den ≤ bound := by
  have quotient : num / den < bound := Nat.div_lt_of_lt_mul below
  have parity : num / den % 2 ≤ 1 := by omega
  unfold halfEven
  dsimp only
  split
  · omega
  · split <;> omega

end HalfEven

namespace Format

/-- The ratio is less than `2 ^ (exponent + bits)`: its mantissa at this exponent fits. -/
def Fits (f : Format) (num den : Nat) (exponent : Int) : Prop :=
  num * 2 ^ (-exponent).toNat < den * 2 ^ exponent.toNat * 2 ^ f.bits

/-- A number as the format keeps it: the mantissa is full, or the exponent the least. -/
structure Canonical (f : Format) (x : BinaryFraction) : Prop where
  fits : x.mantissa < 2 ^ f.bits
  least : f.least ≤ x.exponent
  full : x.exponent = f.least ∨ 2 ^ f.bits ≤ 2 * x.mantissa

variable {f : Format} {num den : Nat} {exponent : Int}

instance : Decidable (f.Fits num den exponent) := inferInstanceAs (Decidable (_ < _))

/-- Any two powers of two whose quotient is `2 ^ exponent` serve to compare. -/
theorem fits_iff (up down : Nat) (apart : (up : Int) - down = exponent) :
    f.Fits num den exponent ↔ num * 2 ^ down < den * 2 ^ up * 2 ^ f.bits := by
  obtain ⟨common, rfl, rfl⟩ : ∃ common, down = (-exponent).toNat + common ∧
      up = exponent.toNat + common := ⟨min up down, by omega, by omega⟩
  have positive : 0 < 2 ^ common := Nat.pow_pos (by omega)
  have left : num * 2 ^ ((-exponent).toNat + common) =
      num * 2 ^ (-exponent).toNat * 2 ^ common := by
    rw [pow_add, Nat.mul_assoc]
  have right : den * 2 ^ (exponent.toNat + common) * 2 ^ f.bits =
      den * 2 ^ exponent.toNat * 2 ^ f.bits * 2 ^ common := by
    rw [pow_add, ← Nat.mul_assoc, Nat.mul_right_comm]
  rw [left, right, Nat.mul_lt_mul_right positive, Fits]

theorem Fits.mono {greater : Int} (fits : f.Fits num den exponent) (le : exponent ≤ greater) :
    f.Fits num den greater := by
  obtain ⟨gap, rfl⟩ : ∃ gap : Nat, greater = exponent + gap :=
    ⟨(greater - exponent).toNat, by omega⟩
  rw [fits_iff (exponent.toNat + gap) (-exponent).toNat (by omega), pow_add]
  have grown : 1 ≤ 2 ^ gap := Nat.pow_pos (by omega)
  calc num * 2 ^ (-exponent).toNat
      < den * 2 ^ exponent.toNat * 2 ^ f.bits := fits
    _ ≤ den * 2 ^ exponent.toNat * 2 ^ f.bits * 2 ^ gap :=
      Nat.le_mul_of_pos_right _ grown
    _ = den * (2 ^ exponent.toNat * 2 ^ gap) * 2 ^ f.bits := by
      rw [← Nat.mul_assoc, Nat.mul_right_comm]

theorem fits_mul {factor : Nat} (positive : 0 < factor) :
    f.Fits (factor * num) (factor * den) exponent ↔ f.Fits num den exponent := by
  unfold Fits
  rw [Nat.mul_assoc factor num, Nat.mul_assoc factor den, Nat.mul_assoc factor,
    Nat.mul_lt_mul_left positive]

theorem fits_log2 (divisor : den ≠ 0) :
    f.Fits num den ((num.log2 : Int) - den.log2 - f.bits + 1) := by
  have above : num < 2 ^ (num.log2 + 1) := Nat.lt_log2_self
  have below : 2 ^ den.log2 ≤ den := Nat.log2_self_le divisor
  rw [fits_iff (num.log2 + 1) (den.log2 + f.bits) (by omega), pow_add 2 den.log2]
  calc num * (2 ^ den.log2 * 2 ^ f.bits)
      < 2 ^ (num.log2 + 1) * (2 ^ den.log2 * 2 ^ f.bits) :=
        Nat.mul_lt_mul_of_pos_right above
          (Nat.mul_pos (Nat.pow_pos (by omega)) (Nat.pow_pos (by omega)))
    _ = 2 ^ den.log2 * 2 ^ (num.log2 + 1) * 2 ^ f.bits := by
      rw [← Nat.mul_assoc, Nat.mul_comm (2 ^ (num.log2 + 1))]
    _ ≤ den * 2 ^ (num.log2 + 1) * 2 ^ f.bits :=
      Nat.mul_le_mul_right _ (Nat.mul_le_mul_right _ below)

theorem not_fits_log2 (positive : num ≠ 0) :
    ¬ f.Fits num den ((num.log2 : Int) - den.log2 - f.bits - 1) := by
  have above : den < 2 ^ (den.log2 + 1) := Nat.lt_log2_self
  have below : 2 ^ num.log2 ≤ num := Nat.log2_self_le positive
  rw [fits_iff num.log2 (den.log2 + 1 + f.bits) (by omega), pow_add 2 (den.log2 + 1),
    Nat.not_lt]
  calc den * 2 ^ num.log2 * 2 ^ f.bits
      ≤ 2 ^ (den.log2 + 1) * 2 ^ num.log2 * 2 ^ f.bits :=
        Nat.mul_le_mul_right _ (Nat.mul_le_mul_right _ (Nat.le_of_lt above))
    _ = 2 ^ num.log2 * (2 ^ (den.log2 + 1) * 2 ^ f.bits) := by
      rw [← Nat.mul_assoc, Nat.mul_comm (2 ^ (den.log2 + 1))]
    _ ≤ num * (2 ^ (den.log2 + 1) * 2 ^ f.bits) := Nat.mul_le_mul_right _ below

/-- The exponent chosen is the first at which the mantissa fits, if it is not too small. -/
theorem exponentFor_eq (positive : num ≠ 0) (divisor : den ≠ 0) :
    ∃ first, f.Fits num den first ∧ ¬ f.Fits num den (first - 1) ∧
      f.exponentFor num den = max first f.least := by
  have high : f.Fits num den (_ + 1) := fits_log2 divisor
  have low : ¬ f.Fits num den (_ - 1) := not_fits_log2 positive
  by_cases fits : f.Fits num den ((num.log2 : Int) - den.log2 - f.bits)
  · exact ⟨_, fits, low, congrArg (max · f.least) (if_pos (decide_eq_true fits))⟩
  · refine ⟨_, high, ?_, congrArg (max · f.least) (if_neg (mt of_decide_eq_true fits))⟩
    rw [Int.add_sub_cancel]
    exact fits

theorem first_unique {first second : Int} (fits : f.Fits num den first)
    (misses : ¬ f.Fits num den (first - 1)) (fits' : f.Fits num den second)
    (misses' : ¬ f.Fits num den (second - 1)) : first = second := by
  by_cases less : first < second
  · exact absurd (fits.mono (by omega)) misses'
  · by_cases greater : second < first
    · exact absurd (fits'.mono (by omega)) misses
    · omega

theorem exponentFor_fits (positive : num ≠ 0) (divisor : den ≠ 0) :
    f.Fits num den (f.exponentFor num den) := by
  obtain ⟨first, fits, -, chosen⟩ := exponentFor_eq (f := f) positive divisor
  rw [chosen]
  exact fits.mono (by omega)

theorem exponentFor_mul {factor : Nat} (larger : 0 < factor) (positive : num ≠ 0)
    (divisor : den ≠ 0) :
    f.exponentFor (factor * num) (factor * den) = f.exponentFor num den := by
  have nonzero : ∀ {n : Nat}, n ≠ 0 → factor * n ≠ 0 := fun given =>
    Nat.mul_ne_zero (by omega) given
  obtain ⟨first, fits, misses, chosen⟩ := exponentFor_eq (f := f) positive divisor
  obtain ⟨second, fits', misses', chosen'⟩ :=
    exponentFor_eq (f := f) (nonzero positive) (nonzero divisor)
  rw [fits_mul larger] at fits' misses'
  rw [chosen, chosen', first_unique fits misses fits' misses']

/-- Rounding sees the ratio, not the two numbers that write it. -/
theorem nearest_mul {factor : Nat} (larger : 0 < factor) (divisor : den ≠ 0) :
    f.nearest (factor * num) (factor * den) = f.nearest num den := by
  unfold nearest
  by_cases zero : num = 0
  · simp [zero]
  · have nonzero : factor * num ≠ 0 := Nat.mul_ne_zero (by omega) zero
    simp only [zero, nonzero, ↓reduceIte, exponentFor_mul larger zero divisor]
    rw [Nat.mul_assoc factor num, Nat.mul_assoc factor den, halfEven_mul larger]

theorem nearest_fits (room : 0 < f.bits) (divisor : den ≠ 0) :
    (f.nearest num den).mantissa < 2 ^ f.bits := by
  unfold nearest
  by_cases zero : num = 0
  · simp only [zero, ↓reduceIte]
    exact Nat.pow_pos (by omega)
  · have fits := exponentFor_fits (f := f) zero divisor
    have bounded := halfEven_le fits
    simp only [zero, ↓reduceIte]
    split
    · exact Nat.pow_lt_pow_right (by omega) (by omega)
    · exact Nat.lt_of_le_of_ne bounded ‹_›

theorem Canonical.exponentFor_eq {x : BinaryFraction} (canonical : f.Canonical x)
    (positive : x.mantissa ≠ 0) : f.exponentFor x.num x.den = x.exponent := by
  have shift : ∀ n : Nat, 0 < 2 ^ n := fun n => Nat.pow_pos (by omega)
  have nonzero : x.num ≠ 0 := Nat.mul_ne_zero positive (Nat.ne_of_gt (shift _))
  obtain ⟨first, fits, misses, chosen⟩ := Format.exponentFor_eq (f := f) nonzero
    (Nat.ne_of_gt (shift _) : x.den ≠ 0)
  have whole : f.Fits x.num x.den x.exponent := by
    simp only [Fits, BinaryFraction.num_eq, BinaryFraction.den_eq]
    rw [Nat.mul_assoc, Nat.mul_comm (2 ^ (-x.exponent).toNat), Nat.mul_comm x.mantissa]
    exact Nat.mul_lt_mul_of_pos_left canonical.fits (Nat.mul_pos (shift _) (shift _))
  have earliest : first ≤ x.exponent := by
    by_cases later : x.exponent < first
    · exact absurd (whole.mono (by omega)) misses
    · omega
  have least := canonical.least
  rcases canonical.full with floor | full
  · rw [chosen]
    omega
  · have short : ¬ f.Fits x.num x.den (x.exponent - 1) := by
      rw [fits_iff x.exponent.toNat ((-x.exponent).toNat + 1) (by omega), Nat.not_lt]
      simp only [BinaryFraction.num_eq, BinaryFraction.den_eq]
      calc 2 ^ (-x.exponent).toNat * 2 ^ x.exponent.toNat * 2 ^ f.bits
          ≤ 2 ^ (-x.exponent).toNat * 2 ^ x.exponent.toNat * (2 * x.mantissa) :=
            Nat.mul_le_mul_left _ full
        _ = x.mantissa * 2 ^ x.exponent.toNat * (2 ^ (-x.exponent).toNat * 2) := by
          rw [Nat.mul_comm (2 ^ (-x.exponent).toNat), ← Nat.mul_assoc, ← Nat.mul_assoc,
            Nat.mul_comm x.mantissa, Nat.mul_right_comm _ 2, Nat.mul_right_comm _ _ x.mantissa]
        _ = x.mantissa * 2 ^ x.exponent.toNat * 2 ^ ((-x.exponent).toNat + 1) := by
          rw [pow_succ]
    rw [chosen, first_unique fits misses whole short]
    omega

/-- A number of the format is nearest to itself. -/
theorem Canonical.nearest_self {x : BinaryFraction} (canonical : f.Canonical x)
    (positive : x.mantissa ≠ 0) : f.nearest x.num x.den = x := by
  have shift : ∀ n : Nat, 0 < 2 ^ n := fun n => Nat.pow_pos (by omega)
  have nonzero : x.num ≠ 0 := Nat.mul_ne_zero positive (Nat.ne_of_gt (shift _))
  have mantissa : halfEven (x.num * 2 ^ (-x.exponent).toNat)
      (x.den * 2 ^ x.exponent.toNat) = x.mantissa := by
    simp only [BinaryFraction.num_eq, BinaryFraction.den_eq]
    rw [Nat.mul_assoc, Nat.mul_comm (2 ^ (-x.exponent).toNat)]
    exact halfEven_exact (Nat.mul_pos (shift _) (shift _)) _
  have small : x.mantissa ≠ 2 ^ f.bits := Nat.ne_of_lt canonical.fits
  rw [nearest, if_neg nonzero, canonical.exponentFor_eq positive]
  refine (if_neg fun spills => small (mantissa.symm.trans spills)).trans ?_
  exact congrArg (BinaryFraction.mk · x.exponent) mantissa

end Format

end Gremlin.Decimal
