import Gremlin.Proofs.Text.Spacing
import Gremlin.Text.DecimalDigit
import Gremlin.Text.Numeral
import Mathlib.Data.List.Induction

set_option autoImplicit false

/-!
Written numbers. A number is read from its digits with any zeros before them, and from nothing else.
-/

namespace Gremlin.Text

/-- The digits of a number, with any number of zeros before them. -/
def Written (n : Nat) (cs : List Char) : Prop :=
  ∃ zeros, cs = List.replicate zeros '0' ++ decimal n

section Digits

theorem readDecimal?_digits {cs : List Char} (given : cs ≠ [])
    (digits : cs.all Char.isDigit = true) : readDecimal? cs = some (Nat.ofDigitChars 10 cs 0) := by
  unfold readDecimal?
  simp only [List.isEmpty_eq_false_iff.mpr given, digits, Bool.not_true, Bool.or_self,
    Bool.false_eq_true, ↓reduceIte]

theorem all_isDigit_zeros (count : Nat) :
    (List.replicate count '0').all Char.isDigit = true := by
  rw [List.all_replicate]
  split <;> rfl

theorem ofDigitChars_zeros (count : Nat) (digits : List Char) :
    Nat.ofDigitChars 10 (List.replicate count '0' ++ digits) 0 = Nat.ofDigitChars 10 digits 0 := by
  rw [Nat.ofDigitChars_append, Nat.ofDigitChars_replicate_zero, Nat.mul_zero]

end Digits

section Written

variable {n : Nat} {cs : List Char}

theorem written_decimal (n : Nat) : Written n (decimal n) := ⟨0, rfl⟩

theorem Written.ne_nil (written : Written n cs) : cs ≠ [] := by
  obtain ⟨zeros, rfl⟩ := written
  simp [decimal_ne_nil]

theorem Written.isDigit (written : Written n cs) : ∀ c ∈ cs, c.isDigit = true := by
  obtain ⟨zeros, rfl⟩ := written
  intro c member
  rcases List.mem_append.mp member with zero | digit
  · exact List.all_eq_true.mp (all_isDigit_zeros zeros) c zero
  · exact isDigit_of_mem_decimal digit

theorem Written.value (written : Written n cs) : Nat.ofDigitChars 10 cs 0 = n := by
  obtain ⟨zeros, rfl⟩ := written
  rw [ofDigitChars_zeros]
  exact Nat.ofDigitChars_ten_toDigits

theorem Written.word (written : Written n cs) : Word cs :=
  ⟨written.ne_nil, fun c member => solid_of_isDigit (written.isDigit c member)⟩

theorem Written.isDecimalDigit (written : Written n cs) : ∀ c ∈ cs, isDecimalDigit c = true :=
  fun c member => isDecimalDigit_of_isDigit (written.isDigit c member)

/-- A digit is the character of its value. -/
theorem exists_digitChar {c : Char} (digit : c.isDigit = true) :
    ∃ d < 10, c = Nat.digitChar d := by
  obtain ⟨low, high⟩ := Char.isDigit_iff_toNat.mp digit
  change 48 ≤ c.toNat at low
  change c.toNat ≤ 57 at high
  have chars : ∀ d < 10, Nat.digitChar d = Char.ofNat (d + 48) := by decide
  refine ⟨c.toNat - 48, by omega, ?_⟩
  rw [chars _ (by omega), Nat.sub_add_cancel low, Char.ofNat_toNat]

/-- By induction from the last digit: while there are only zeros before it, it is the number. -/
theorem written_ofDigitChars (given : cs ≠ []) (digits : ∀ c ∈ cs, c.isDigit = true) :
    Written (Nat.ofDigitChars 10 cs 0) cs := by
  induction cs using List.reverseRecOn with
  | nil => exact absurd rfl given
  | append_singleton front c ih =>
    obtain ⟨d, small, rfl⟩ := exists_digitChar (digits c (by simp))
    have last : decimal d = [Nat.digitChar d] := Nat.toDigits_of_lt_base small
    rw [Nat.ofDigitChars_append, Nat.ofDigitChars_cons_digitChar_of_lt_ten small,
      Nat.ofDigitChars_nil]
    by_cases none : front = []
    · subst none
      rw [Nat.ofDigitChars_nil, Nat.mul_zero, Nat.zero_add]
      exact ⟨0, last.symm⟩
    · obtain ⟨zeros, parts⟩ := ih none fun c member => digits c (List.mem_append_left _ member)
      generalize Nat.ofDigitChars 10 front 0 = m at parts
      by_cases zero : m = 0
      · subst zero
        refine ⟨zeros + 1, ?_⟩
        rw [parts, Nat.mul_zero, Nat.zero_add, last, List.replicate_succ']
        rfl
      · have joined : decimal m ++ decimal d = decimal (10 * m + d) :=
          Nat.toDigits_append_toDigits (by decide) (Nat.pos_of_ne_zero zero) small
        refine ⟨zeros, ?_⟩
        rw [parts, ← joined, last, List.append_assoc]

theorem readDecimal?_eq_some_iff : readDecimal? cs = some n ↔ Written n cs := by
  constructor
  · intro read
    unfold readDecimal? at read
    split at read
    · cases read
    · next accepted =>
      cases read
      simp only [Bool.or_eq_true, Bool.not_eq_true', not_or, List.isEmpty_iff,
        Bool.not_eq_false, List.all_eq_true] at accepted
      exact written_ofDigitChars accepted.1 accepted.2
  · intro written
    rw [readDecimal?_digits written.ne_nil (List.all_eq_true.mpr written.isDigit), written.value]

theorem readBelow?_eq_some_iff_written {bound : Nat} :
    readBelow? bound cs = some n ↔ n < bound ∧ Written n cs := by
  unfold readBelow?
  rw [Option.filter_eq_some_iff, readDecimal?_eq_some_iff, decide_eq_true_eq, and_comm]

end Written

/-- No script has a digit that is a blank. -/
theorem isDecimalDigit_of_isBlank {c : Char} (blank : isBlank c = true) :
    isDecimalDigit c = false := by
  have apart : ∀ first ∈ digitZeros, ∀ offset < 10,
      isBlank (Char.ofNat (first + offset)) = false := by
    decide +kernel
  have ascii : ∀ offset < 10, isBlank (Char.ofNat (48 + offset)) = false := by decide
  have shown (first : Nat) (low : first ≤ c.toNat) :
      Char.ofNat (first + (c.toNat - first)) = c := by
    rw [Nat.add_sub_cancel' low, Char.ofNat_toNat]
  by_contra digit
  rw [Bool.not_eq_false, isDecimalDigit, Bool.or_eq_true, Bool.and_eq_true, List.any_eq_true]
    at digit
  rcases digit with digit | ⟨-, first, listed, within⟩
  · obtain ⟨low, high⟩ := Char.isDigit_iff_toNat.mp digit
    change 48 ≤ c.toNat at low
    change c.toNat ≤ 57 at high
    have solid := ascii (c.toNat - 48) (by omega)
    rw [shown 48 low, blank] at solid
    cases solid
  · rw [Bool.and_eq_true, decide_eq_true_eq, decide_eq_true_eq] at within
    have solid := apart first listed (c.toNat - first) (by omega)
    rw [shown first within.1, blank] at solid
    cases solid

end Gremlin.Text
