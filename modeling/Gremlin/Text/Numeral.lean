set_option autoImplicit false

/-! Natural numbers in base ten. Reading what was written gives the number back. -/

namespace Gremlin.Text

def decimal (n : Nat) : List Char := Nat.toDigits 10 n

/-- The number that a nonempty run of ASCII digits stands for; leading zeros count for nothing. -/
def readDecimal? (cs : List Char) : Option Nat :=
  if cs.isEmpty || !cs.all Char.isDigit then none else some (Nat.ofDigitChars 10 cs 0)

def readBelow? (bound : Nat) (cs : List Char) : Option Nat :=
  (readDecimal? cs).filter (· < bound)

/-- One more than the greatest number of 32 bits. -/
abbrev wordBound : Nat := 4294967296

abbrev longBound : Nat := 18446744073709551616

theorem decimal_ne_nil (n : Nat) : decimal n ≠ [] := Nat.toDigits_ne_nil

theorem isDigit_of_mem_decimal {n : Nat} {c : Char} (member : c ∈ decimal n) :
    c.isDigit = true :=
  Nat.isDigit_of_mem_toDigits (by decide) (by decide) member

theorem readDecimal?_decimal (n : Nat) : readDecimal? (decimal n) = some n := by
  have digits : (decimal n).all Char.isDigit = true :=
    List.all_eq_true.mpr fun _ member => isDigit_of_mem_decimal member
  simp only [readDecimal?, digits]
  simp [decimal, Nat.ofDigitChars_ten_toDigits]

theorem readBelow?_decimal {bound n : Nat} (small : n < bound) :
    readBelow? bound (decimal n) = some n := by
  simp [readBelow?, readDecimal?_decimal, Option.filter, small]

end Gremlin.Text
