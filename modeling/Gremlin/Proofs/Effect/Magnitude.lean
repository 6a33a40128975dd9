import Gremlin.Effect.Grammar
import Gremlin.Proofs.Decimal.Doubles
import Gremlin.Proofs.Decimal.Shortest
import Gremlin.Proofs.Text.Numerals
import Mathlib.Data.List.TakeWhile

set_option autoImplicit false

/-!
Written magnitudes are read back: an amount from its digits, percentage points from the shortest
digits of their double, wherever the point stands.
-/

namespace Gremlin

open Gremlin.Text Gremlin.Decimal

section Fraction

theorem all_isDecimalDigit {cs : List Char} (digits : cs.all Char.isDigit = true) :
    cs.all isDecimalDigit = true := by
  rw [List.all_eq_true] at digits ⊢
  intro c member
  exact isDecimalDigit_of_isDigit (digits c member)

theorem fractionParts?_whole {whole : List Char} (given : whole ≠ [])
    (digits : whole.all Char.isDigit = true) : fractionParts? whole = some (whole, []) := by
  have all : ∀ c ∈ whole, isDecimalDigit c = true :=
    List.all_eq_true.mp (all_isDecimalDigit digits)
  have taken : whole.takeWhile isDecimalDigit = whole := List.takeWhile_eq_self_iff.mpr all
  have dropped : whole.dropWhile isDecimalDigit = [] := List.dropWhile_eq_nil_iff.mpr all
  obtain ⟨first, rest, rfl⟩ := List.exists_cons_of_ne_nil given
  unfold fractionParts?
  simp only [taken, dropped]

theorem fractionParts?_point {whole fraction : List Char} (given : whole ≠ [])
    (given' : fraction ≠ []) (digits : whole.all Char.isDigit = true)
    (digits' : fraction.all Char.isDigit = true) :
    fractionParts? (whole ++ '.' :: fraction) = some (whole, fraction) := by
  have all : ∀ c ∈ whole, isDecimalDigit c = true :=
    List.all_eq_true.mp (all_isDecimalDigit digits)
  have point : isDecimalDigit '.' = false := by decide
  have taken : (whole ++ '.' :: fraction).takeWhile isDecimalDigit = whole := by
    rw [List.takeWhile_append_of_pos all, List.takeWhile_cons_of_neg (by simp [point]),
      List.append_nil]
  have dropped : (whole ++ '.' :: fraction).dropWhile isDecimalDigit = '.' :: fraction := by
    rw [List.dropWhile_append_of_pos all, List.dropWhile_cons_of_neg (by simp [point])]
  have all' := all_isDecimalDigit digits'
  obtain ⟨first, rest, rfl⟩ := List.exists_cons_of_ne_nil given
  unfold fractionParts?
  simp only [taken, dropped, List.isEmpty_eq_false_iff.mpr given', all', Bool.not_true,
    Bool.or_self, Bool.false_eq_true, ↓reduceIte]

theorem readFraction?_whole {whole : List Char} (given : whole ≠ [])
    (digits : whole.all Char.isDigit = true) :
    (fractionParts? whole).bind readFraction? =
      some (ofDigits (Nat.ofDigitChars 10 whole 0) 0) := by
  rw [fractionParts?_whole given digits, Option.bind_some]
  unfold readFraction?
  rw [List.append_nil, readDecimal?_digits given digits]
  rfl

theorem readFraction?_point {whole fraction : List Char} (given : whole ≠ [])
    (given' : fraction ≠ []) (digits : (whole ++ fraction).all Char.isDigit = true) :
    (fractionParts? (whole ++ '.' :: fraction)).bind readFraction? =
      some (ofDigits (Nat.ofDigitChars 10 (whole ++ fraction) 0) fraction.length) := by
  have parts : whole.all Char.isDigit = true ∧ fraction.all Char.isDigit = true := by
    rw [← Bool.and_eq_true, ← List.all_append]
    exact digits
  have present : whole ++ fraction ≠ [] := by simp [given]
  rw [fractionParts?_point given given' parts.1 parts.2, Option.bind_some]
  unfold readFraction?
  rw [readDecimal?_digits present digits]
  rfl

/-- Digits in their places read as the number they stand for, wherever the point is. -/
theorem readFraction?_positional {digits : List Char} (given : digits ≠ [])
    (all : digits.all Char.isDigit = true) (exponent : Int) :
    (fractionParts? (positional digits exponent)).bind readFraction? =
      some (ofDigits (Nat.ofDigitChars 10 digits 0 * 10 ^ exponent.toNat)
        (-exponent).toNat) := by
  have some : 0 < digits.length := List.length_pos_iff.mpr given
  unfold positional
  dsimp only
  by_cases integral : (-exponent).toNat = 0
  · have every : (digits ++ List.replicate exponent.toNat '0').all Char.isDigit = true := by
      rw [List.all_append, all, all_isDigit_zeros]
      rfl
    have value : Nat.ofDigitChars 10 (digits ++ List.replicate exponent.toNat '0') 0 =
        Nat.ofDigitChars 10 digits 0 * 10 ^ exponent.toNat := by
      rw [Nat.ofDigitChars_append, Nat.ofDigitChars_replicate_zero, Nat.mul_comm]
    rw [if_pos integral, readFraction?_whole (by simp [given]) every, value, integral]
  · have unit : exponent.toNat = 0 := by omega
    rw [if_neg integral, unit, pow_zero, Nat.mul_one]
    split
    · next short =>
      -- zeros in front of all the digits are worth nothing
      have every : (List.replicate ((-exponent).toNat - digits.length + 1) '0' ++ digits).all
          Char.isDigit = true := by
        rw [List.all_append, all, all_isDigit_zeros]
        rfl
      have value := ofDigitChars_zeros ((-exponent).toNat - digits.length + 1) digits
      have places : (List.replicate ((-exponent).toNat - digits.length) '0' ++ digits).length =
          (-exponent).toNat := by
        rw [List.length_append, List.length_replicate]
        omega
      rw [List.replicate_succ] at every value
      have read := @readFraction?_point ['0'] (List.replicate _ '0' ++ digits)
        (List.cons_ne_nil _ _) (by simp [given]) every
      rw [places] at read
      rw [← value]
      exact read
    · next long =>
      have before : digits.take (digits.length - (-exponent).toNat) ≠ [] := by
        rw [← List.length_pos_iff, List.length_take]
        omega
      have after : digits.drop (digits.length - (-exponent).toNat) ≠ [] := by
        rw [← List.length_pos_iff, List.length_drop]
        omega
      have places : (digits.drop (digits.length - (-exponent).toNat)).length =
          (-exponent).toNat := by
        rw [List.length_drop]
        omega
      have whole := List.take_append_drop (digits.length - (-exponent).toNat) digits
      have read := readFraction?_point before after (by rw [whole]; exact all)
      rw [whole, places] at read
      exact read

/-- A number's digits in their places read back to the double nearest to the number. -/
theorem readFraction?_plain (d : Digits) :
    (fractionParts? d.plain).bind readFraction? =
      some (Format.double.ofDecimal d.digits d.exponent).toFloat := by
  unfold Digits.plain
  by_cases zero : d.digits = 0
  · simp only [zero, ↓reduceIte]
    rw [Format.ofDecimal_zero]
    rfl
  · have digits : (decimal d.digits).all Char.isDigit = true :=
      List.all_eq_true.mpr fun _ member => isDigit_of_mem_decimal member
    have value : Nat.ofDigitChars 10 (decimal d.digits) 0 = d.digits :=
      Nat.ofDigitChars_ten_toDigits
    have sign : -(((-d.exponent).toNat : Nat) : Int) + d.exponent.toNat = d.exponent := by omega
    rw [if_neg zero, readFraction?_positional (decimal_ne_nil d.digits) digits, value]
    unfold ofDigits
    rw [Format.ofDecimal_shift, sign]

end Fraction

namespace Magnitude

theorem readAmount?_decimal {cs : List Char} {n : Nat} (read : readAmount? cs = some n) :
    readAmount? (decimal n) = some n := by
  unfold readAmount? readBelow? at read ⊢
  obtain ⟨-, small⟩ := Option.filter_eq_some_iff.mp read
  rw [readDecimal?_decimal, Option.filter_some, if_pos small]

theorem readPercent?_append {cs : List Char} :
    readPercent? (cs ++ ['%']) =
      ((fractionParts? cs).bind readFraction?).filter fun points => points ≤ 100.0 := by
  unfold readPercent?
  rw [List.getLast?_concat, List.dropLast_concat]
  rfl

/-- The points a reader accepts are those of a finite number of the format. -/
theorem exists_of_readPercent? {cs : List Char} {points : Float}
    (read : readPercent? cs = some points) :
    points ≤ 100.0 ∧ ∃ x : BinaryFraction, x.mantissa < 2 ^ 53 ∧ x.toFloat = points := by
  unfold readPercent? at read
  split at read
  · obtain ⟨number, bounded⟩ := Option.filter_eq_some_iff.mp read
    obtain ⟨parts, -, number⟩ := Option.bind_eq_some_iff.mp number
    obtain ⟨digits, -, rfl⟩ := Option.map_eq_some_iff.mp number
    refine ⟨of_decide_eq_true bounded, _, ?_, rfl⟩
    exact Format.nearest_fits (f := Format.double) (by decide)
      (Nat.ne_of_gt (Nat.pow_pos (by omega)))
  · cases read

/-- Points that were read are written as digits that stand for them. -/
theorem exists_digits_of_readPercent? {cs : List Char} {points : Float}
    (read : readPercent? cs = some points) :
    ∃ d : Digits, Decimal.plain points = d.plain ∧
      (Format.double.ofDecimal d.digits d.exponent).toFloat = points := by
  obtain ⟨bounded, x, fits, rfl⟩ := exists_of_readPercent? read
  have finite := finite_of_le fits bounded
  have kept := toBits_toFloat finite
  obtain ⟨size, reads, same, canonical⟩ := reading_of_finite (by rw [kept]; exact finite)
  refine ⟨Format.double.shortest size, ?_, ?_⟩
  · unfold Decimal.plain layout
    rw [reads]
    rfl
  · rw [canonical.ofDecimal_shortest]
    exact toFloat_eq_of_bits (same.trans kept)

/-- Percentage points are read back from their text. -/
theorem readPercent?_plain {cs : List Char} {points : Float}
    (read : readPercent? cs = some points) :
    readPercent? (Decimal.plain points ++ ['%']) = some points := by
  have bounded := (exists_of_readPercent? read).1
  obtain ⟨d, written, stands⟩ := exists_digits_of_readPercent? read
  rw [written, readPercent?_append, readFraction?_plain, stands, Option.filter_some,
    if_pos (decide_eq_true bounded)]

end Magnitude

end Gremlin
