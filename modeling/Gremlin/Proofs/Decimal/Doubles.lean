import Gremlin.Proofs.Decimal.Nearest

set_option autoImplicit false

/-!
A double that is no NaN keeps the bits it is made of, and its reading is the number whose bits they
are.
-/

namespace Gremlin.Decimal

section Packing

open Float.Model Float.Model.UnpackedFloat

abbrev binary64 : Float.Model.Format := Float.Model.Format.binary64

theorem sign_toBitVec (sign : BitVec 1) : (Sign.ofBitVec sign).toBitVec = sign := by
  revert sign
  decide

theorem components_of_word (word : BitVec binary64.numBits) :
    packComponents binary64 (Sign.ofBitVec (unpackSign word)) (unpackExponent word)
      (unpackMantissa word) = word := by
  unfold packComponents
  rw [sign_toBitVec]
  change word.extractLsb 63 63 ++ word.extractLsb 62 52 ++ word.extractLsb 51 0 = word
  ext i bound
  simp only [BitVec.getElem_append]
  split
  · simp [BitVec.getLsbD_eq_getElem bound]
  · split
    · simp only [BitVec.extractLsb, BitVec.getElem_extractLsb']
      rw [← BitVec.getLsbD_eq_getElem]
      congr 1
      omega
    · simp only [BitVec.extractLsb, BitVec.getElem_extractLsb']
      rw [← BitVec.getLsbD_eq_getElem]
      congr 1
      omega

theorem pack_subnormal (sign : Sign) (mantissa : BitVec 52) (positive : 0 < mantissa.toNat) :
    UnpackedFloat.pack binary64 (.finite sign mantissa.toNat (-1074) positive) =
      packComponents binary64 sign 0#11 mantissa := by
  have short : mantissa.toNat.log2 < 52 := (Nat.log2_lt (by omega)).mpr mantissa.isLt
  have width : binary64.mantissaBits = 53 := rfl
  unfold UnpackedFloat.pack
  dsimp only
  rw [if_neg (by decide), if_neg (by omega), BitVec.ofNat_toNat, BitVec.setWidth_eq]

/-- The hidden bit leads the mantissa and is dropped again. -/
theorem pack_normal (sign : Sign) (exponent : BitVec 11) (mantissa : BitVec 52)
    (finite : exponent ≠ -1#11) (positive : 0 < (1#1 ++ mantissa).toNat) :
    UnpackedFloat.pack binary64
        (.finite sign (1#1 ++ mantissa).toNat ((exponent.toNat : Int) - 1075) positive) =
      packComponents binary64 sign exponent mantissa := by
  have low := mantissa.isLt
  have high := exponent.isLt
  have top : exponent.toNat ≠ 2 ^ 11 - 1 := fun top => finite (BitVec.eq_of_toNat_eq top)
  have bias : binary64.exponentBias = 1023 := rfl
  have width : binary64.mantissaBits = 53 := rfl
  have lead : (1#1 ++ mantissa).toNat = 2 ^ 52 + mantissa.toNat := by
    rw [BitVec.toNat_append, ← Nat.shiftLeft_add_eq_or_of_lt low]
    rfl
  have full : (2 ^ 52 + mantissa.toNat).log2 = 52 := by
    have least : 52 ≤ (2 ^ 52 + mantissa.toNat).log2 := (Nat.le_log2 (by omega)).mpr (by omega)
    have most : (2 ^ 52 + mantissa.toNat).log2 < 53 := (Nat.log2_lt (by omega)).mpr (by omega)
    omega
  have rest : BitVec.ofNat 52 (2 ^ 52 + mantissa.toNat) = mantissa := by
    apply BitVec.eq_of_toNat_eq
    rw [BitVec.toNat_ofNat]
    omega
  have biased : ((exponent.toNat : Int) - 1075 + binary64.exponentBias + (52 : Nat)).toNat =
      exponent.toNat := by
    omega
  unfold UnpackedFloat.pack
  dsimp only
  rw [lead, biased, full, rest, if_neg (by omega), if_pos (by omega), BitVec.ofNat_toNat,
    BitVec.setWidth_eq]

theorem pack_unpack (word : BitVec binary64.numBits) (finite : unpackExponent word ≠ -1#11) :
    UnpackedFloat.pack binary64 (UnpackedFloat.unpack binary64 word) = word := by
  have parts := components_of_word word
  unfold UnpackedFloat.unpack
  dsimp only
  rw [if_neg finite]
  by_cases small : unpackExponent word = 0#11
  · rw [if_pos small]
    generalize unpackExponent word = exponent at small parts ⊢
    subst small
    by_cases zero : unpackMantissa word = 0#52
    · rw [dif_pos zero]
      rw [zero] at parts
      exact parts
    · rw [dif_neg zero]
      exact (pack_subnormal _ _ _).trans parts
  · rw [if_neg small]
    exact (pack_normal _ _ _ finite _).trans parts

end Packing

theorem toBits_ofBits {bits : UInt64} (finite : bits.toNat < (2 ^ 11 - 1) * 2 ^ 52) :
    (Float.ofBits bits).toBits = bits := by
  have exponent : @Float.Model.UnpackedFloat.unpackExponent binary64 bits.toBitVec ≠ -1#11 := by
    intro top
    have field : (bits.toBitVec.extractLsb 62 52).toNat = 2047 := congrArg BitVec.toNat top
    rw [BitVec.extractLsb_toNat, Nat.shiftRight_eq_div_pow] at field
    change bits.toNat / 2 ^ 52 % 2 ^ 11 = 2047 at field
    omega
  change UInt64.ofBitVec _ = bits
  rw [pack_unpack _ exponent]

theorem bits_of_small {x : BinaryFraction} (small : x.mantissa < 2 ^ 52) :
    x.bits = x.mantissa :=
  if_pos small

theorem bits_of_large {x : BinaryFraction} (large : 2 ^ 52 ≤ x.mantissa)
    (finite : (x.exponent + 1075).toNat < 2 ^ 11 - 1) :
    x.bits = (x.exponent + 1075).toNat * 2 ^ 52 + (x.mantissa - 2 ^ 52) := by
  unfold BinaryFraction.bits
  exact (if_neg (Nat.not_lt.mpr large)).trans (if_neg (Nat.not_le.mpr finite))

/-- The bits of a number of the format never spell a sign or a NaN. -/
theorem bits_le {x : BinaryFraction} (fits : x.mantissa < 2 ^ 53) :
    x.bits ≤ (2 ^ 11 - 1) * 2 ^ 52 := by
  by_cases small : x.mantissa < 2 ^ 52
  · rw [bits_of_small small]
    exact Nat.le_trans (Nat.le_of_lt small) (by decide)
  · by_cases finite : (x.exponent + 1075).toNat < 2 ^ 11 - 1
    · rw [bits_of_large (Nat.not_lt.mp small) finite]
      omega
    · unfold BinaryFraction.bits
      exact Nat.le_of_eq ((if_neg small).trans (if_pos (Nat.not_lt.mp finite)))

theorem reading_of_small {x : Float} {bits : Nat} (word : x.toBits.toNat = bits)
    (small : bits < 2 ^ 52) : reading x = .finite false ⟨bits, -1074⟩ := by
  have unsigned : ¬ 2 ^ 63 ≤ bits := by omega
  have field : bits / 2 ^ 52 % 2 ^ 11 = 0 := by omega
  have fraction : bits % 2 ^ 52 = bits := Nat.mod_eq_of_lt small
  have finite : 0 ≠ 2 ^ 11 - 1 := by decide
  unfold reading
  simp only [word, Nat.pow_eq, field, fraction, unsigned, finite, ↓reduceIte, decide_false]

theorem reading_of_large {x : Float} {bits : Nat} (word : x.toBits.toNat = bits)
    (large : 2 ^ 52 ≤ bits) (finite : bits < (2 ^ 11 - 1) * 2 ^ 52) :
    reading x = .finite false
      ⟨2 ^ 52 + bits % 2 ^ 52, ((bits / 2 ^ 52 : Nat) : Int) - 1075⟩ := by
  have unsigned : ¬ 2 ^ 63 ≤ bits := by omega
  have field : bits / 2 ^ 52 % 2 ^ 11 = bits / 2 ^ 52 := by omega
  have below : bits / 2 ^ 52 ≠ 2 ^ 11 - 1 := by omega
  have normal : bits / 2 ^ 52 ≠ 0 := by omega
  unfold reading
  simp only [word, Nat.pow_eq, field, below, normal, unsigned, ↓reduceIte, decide_false]

/-- The reading of a finite double is the number it was made of. -/
theorem reading_of_finite {x : Float} (finite : x.toBits.toNat < (2 ^ 11 - 1) * 2 ^ 52) :
    ∃ size, reading x = .finite false size ∧ size.bits = x.toBits.toNat ∧
      Format.double.Canonical size := by
  generalize word : x.toBits.toNat = bits at finite
  by_cases small : bits < 2 ^ 52
  · refine ⟨_, reading_of_small word small, bits_of_small small, ?_, Int.le_refl _, Or.inl rfl⟩
    exact Nat.lt_trans small (by decide)
  · have exponent : (((bits / 2 ^ 52 : Nat) : Int) - 1075 + 1075).toNat = bits / 2 ^ 52 := by
      omega
    have field : (((bits / 2 ^ 52 : Nat) : Int) - 1075 + 1075).toNat < 2 ^ 11 - 1 := by
      omega
    have reads : reading x = .finite false
        ⟨2 ^ 52 + bits % 2 ^ 52, ((bits / 2 ^ 52 : Nat) : Int) - 1075⟩ :=
      reading_of_large word (Nat.not_lt.mp small) finite
    refine ⟨_, reads, ?_, ?_, ?_, Or.inr ?_⟩
    · rw [bits_of_large (Nat.le_add_right _ _) field, exponent, Nat.add_sub_cancel_left]
      omega
    · change 2 ^ 52 + bits % 2 ^ 52 < 2 ^ 53
      omega
    · change -1074 ≤ ((bits / 2 ^ 52 : Nat) : Int) - 1075
      omega
    · change 2 ^ 53 ≤ 2 * (2 ^ 52 + bits % 2 ^ 52)
      omega

/-- A double made of digits and not infinite is written with digits that read back to it. -/
theorem toBits_toFloat {x : BinaryFraction} (finite : x.bits < (2 ^ 11 - 1) * 2 ^ 52) :
    x.toFloat.toBits.toNat = x.bits := by
  have bound : x.bits < 2 ^ 64 := Nat.lt_trans finite (by decide)
  have word : (UInt64.ofNat x.bits).toNat = x.bits := UInt64.toNat_ofNat_of_lt' bound
  unfold BinaryFraction.toFloat
  rw [toBits_ofBits (by rw [word]; exact finite), word]

theorem toFloat_eq_of_bits {x y : BinaryFraction} (same : x.bits = y.bits) :
    x.toFloat = y.toFloat := by
  unfold BinaryFraction.toFloat
  rw [same]

/-- The one double beyond the finite ones exceeds every bound. -/
theorem finite_of_le {x : BinaryFraction} (fits : x.mantissa < 2 ^ 53)
    (bounded : x.toFloat ≤ 100.0) : x.bits < (2 ^ 11 - 1) * 2 ^ 52 := by
  by_cases finite : x.bits < (2 ^ 11 - 1) * 2 ^ 52
  · exact finite
  · have infinite : x.bits = (2 ^ 11 - 1) * 2 ^ 52 :=
      Nat.le_antisymm (bits_le fits) (Nat.not_lt.mp finite)
    unfold BinaryFraction.toFloat at bounded
    rw [infinite] at bounded
    exact absurd bounded (by decide +kernel)

end Gremlin.Decimal
