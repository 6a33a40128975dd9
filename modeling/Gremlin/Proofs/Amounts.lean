import Gremlin.Amounts
import Mathlib.Algebra.Order.BigOperators.Group.List
import Mathlib.Algebra.Order.Ring.Nat

set_option autoImplicit false

/-!
Sums that go on from zero past 32 bits. They are the exact sums up to a multiple of 2^32, and just
these as long as they are below it.
-/

namespace Gremlin

open Gremlin.Text (wordBound)

theorem foldl_wrappingAdd (amounts : List Nat) (start : Nat) :
    amounts.foldl wrappingAdd (start % wordBound) = (start + amounts.sum) % wordBound := by
  induction amounts generalizing start with
  | nil => rfl
  | cons n rest ih =>
    have first : wrappingAdd (start % wordBound) n = (start + n) % wordBound := Nat.mod_add_mod ..
    rw [List.foldl_cons, first, ih, List.sum_cons, Nat.add_assoc]

/-- However often the sum went on from zero on the way. -/
theorem wrappingSum_eq (amounts : List Nat) : wrappingSum amounts = amounts.sum % wordBound := by
  have summed := foldl_wrappingAdd amounts 0
  rwa [Nat.zero_add] at summed

theorem wrappingSum_of_lt {amounts : List Nat} (fits : amounts.sum < wordBound) :
    wrappingSum amounts = amounts.sum := by
  rw [wrappingSum_eq, Nat.mod_eq_of_lt fits]

theorem wrappingSum_le (amounts : List Nat) : wrappingSum amounts ≤ amounts.sum := by
  rw [wrappingSum_eq]
  exact Nat.mod_le ..

theorem wrappingSum_perm {left right : List Nat} (same : left.Perm right) :
    wrappingSum left = wrappingSum right := by
  rw [wrappingSum_eq, wrappingSum_eq, same.sum_nat]

theorem wrappingSum_append (left right : List Nat) :
    wrappingSum (left ++ right) = wrappingAdd (wrappingSum left) (wrappingSum right) := by
  rw [wrappingSum_eq, wrappingSum_eq, wrappingSum_eq, wrappingAdd, List.sum_append_nat]
  exact Nat.add_mod ..

end Gremlin
