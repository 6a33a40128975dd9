import Gremlin.Decimal.Shortest
import Gremlin.Proofs.Decimal.Nearest

set_option autoImplicit false

/-!
The shortest digits of a number of a format read back to it, whichever grid they were found on and
however many zeros were taken off their end.
-/

namespace Gremlin.Decimal

namespace Format

variable {f : Format}

/-- Any two powers of ten whose quotient is `10 ^ exponent` serve to write the number. -/
theorem ofDecimal_eq (digits up down : Nat) {exponent : Int}
    (apart : (up : Int) - down = exponent) :
    f.ofDecimal digits exponent = f.nearest (digits * 10 ^ up) (10 ^ down) := by
  have shift : ∀ n : Nat, 0 < 10 ^ n := fun n => Nat.pow_pos (by omega)
  obtain ⟨common, rfl, rfl⟩ : ∃ common, down = (-exponent).toNat + common ∧
      up = exponent.toNat + common := ⟨min up down, by omega, by omega⟩
  have upper : digits * 10 ^ (exponent.toNat + common) =
      10 ^ common * (digits * 10 ^ exponent.toNat) := by
    rw [pow_add, ← Nat.mul_assoc, Nat.mul_comm]
  have lower : 10 ^ ((-exponent).toNat + common) =
      10 ^ common * 10 ^ (-exponent).toNat := by
    rw [pow_add, Nat.mul_comm]
  rw [upper, lower, nearest_mul (shift _) (Nat.ne_of_gt (shift _)), ofDecimal, Nat.pow_eq,
    Nat.pow_eq]

theorem ofDecimal_zero (exponent : Int) : f.ofDecimal 0 exponent = ⟨0, f.least⟩ := by
  simp [ofDecimal, nearest]

/-- Zeros at the end of the digits are worth as much in the exponent. -/
theorem ofDecimal_shift (digits count : Nat) (exponent : Int) :
    f.ofDecimal (digits * 10 ^ count) exponent = f.ofDecimal digits (exponent + count) := by
  rw [ofDecimal_eq digits (exponent.toNat + count) (-exponent).toNat (by omega),
    ofDecimal_eq (digits * 10 ^ count) exponent.toNat (-exponent).toNat (by omega), pow_add,
    Nat.mul_assoc, Nat.mul_comm (10 ^ count)]

theorem ofDecimal_stripZeros (count : Nat) (d : Digits) :
    f.ofDecimal (d.stripZeros count).digits (d.stripZeros count).exponent =
      f.ofDecimal d.digits d.exponent := by
  induction count generalizing d with
  | zero => rfl
  | succ count ih =>
    unfold Digits.stripZeros
    split
    · next zero =>
      have whole : d.digits / 10 * 10 ^ 1 = d.digits := by
        show d.digits / 10 * 10 = d.digits
        omega
      have shifted := ofDecimal_shift (f := f) (d.digits / 10) 1 d.exponent
      rw [whole] at shifted
      rw [ih, shifted]
      rfl
    · rfl

theorem ofDecimal_of_onGrid? {x : BinaryFraction} {exponent : Int} {d : Digits}
    (found : f.onGrid? x exponent = some d) : f.ofDecimal d.digits d.exponent = x := by
  unfold onGrid? at found
  dsimp only at found
  split at found
  · next lower =>
    cases found
    exact lower.1
  · split at found
    · next upper =>
      cases found
      exact upper
    · cases found

theorem Canonical.ofDecimal_exactDigits {x : BinaryFraction} (canonical : f.Canonical x)
    (positive : x.mantissa ≠ 0) :
    f.ofDecimal x.exactDigits.digits x.exactDigits.exponent = x := by
  have self := canonical.nearest_self positive
  rw [BinaryFraction.num_eq, BinaryFraction.den_eq] at self
  unfold BinaryFraction.exactDigits
  simp only [Nat.pow_eq]
  by_cases whole : 0 ≤ x.exponent
  · have down : (-x.exponent).toNat = 0 := by omega
    rw [down] at self
    simp only [whole, ↓reduceIte]
    rw [ofDecimal_eq _ 0 0 (by omega), pow_zero, Nat.mul_one]
    exact self
  · -- a factor of five on both sides turns the power of two below into one of ten
    have up : x.exponent.toNat = 0 := by omega
    rw [up, pow_zero, Nat.mul_one] at self
    have fives : 0 < 5 ^ (-x.exponent).toNat := Nat.pow_pos (by omega)
    have twos : 0 < 2 ^ (-x.exponent).toNat := Nat.pow_pos (by omega)
    have tens : 10 ^ (-x.exponent).toNat =
        5 ^ (-x.exponent).toNat * 2 ^ (-x.exponent).toNat :=
      mul_pow 5 2 _
    simp only [whole, ↓reduceIte]
    rw [ofDecimal_eq _ 0 (-x.exponent).toNat (by omega), pow_zero, Nat.mul_one, tens,
      Nat.mul_comm x.mantissa, nearest_mul fives (Nat.ne_of_gt twos), self]

/-- The shortest digits read back. -/
theorem Canonical.ofDecimal_shortest {x : BinaryFraction} (canonical : f.Canonical x) :
    f.ofDecimal (f.shortest x).digits (f.shortest x).exponent = x := by
  unfold shortest
  by_cases zero : x.mantissa = 0
  · have small : ¬ 2 ^ f.bits ≤ 2 * x.mantissa := by
      have positive : 0 < 2 ^ f.bits := Nat.pow_pos (by omega)
      omega
    have floor : x.exponent = f.least := canonical.full.resolve_right small
    simp only [zero, ↓reduceIte]
    rw [ofDecimal_zero, ← zero, ← floor]
  · simp only [zero, ↓reduceIte]
    rw [ofDecimal_stripZeros]
    generalize search : List.findSome? _ _ = found
    cases found with
    | none => exact canonical.ofDecimal_exactDigits zero
    | some d =>
      obtain ⟨n, -, hit⟩ := List.exists_of_findSome?_eq_some search
      exact ofDecimal_of_onGrid? hit

end Format

end Gremlin.Decimal
