import DateCalculator.Number.Whole
import Mathlib

/-!
The stored form of doubles. A finite double has a mantissa of at most 53 bits and an exponent
between -1074 and 971; one whose mantissa has all 53 bits comes back unchanged from its bits.
-/

namespace DateCalculator.Number

open Float.Model (Format UnpackedFloat totalExponent)
open Float.Model.UnpackedFloat

/-- A mantissa of exactly 53 bits, with an exponent in the range of doubles. -/
structure Normal (mantissa : Nat) (exponent : Int) : Prop where
  full : 2 ^ 52 ≤ mantissa
  short : mantissa < 2 ^ 53
  lowest : -1074 ≤ exponent
  highest : exponent ≤ 971

section Packing

variable {mantissa : Nat} {exponent : Int}

theorem Normal.pos (normal : Normal mantissa exponent) : 0 < mantissa := by
  have full := normal.full
  omega

theorem Normal.log2_eq (normal : Normal mantissa exponent) : mantissa.log2 = 52 :=
  (Nat.log2_eq_iff (by have := normal.pos; omega)).mpr ⟨normal.full, normal.short⟩

/-- The bit in front of the stored mantissa counts `2 ^ 52`. -/
theorem toNat_leadingBit (mantissa : BitVec 52) :
    (1#1 ++ mantissa).toNat = 2 ^ 52 + mantissa.toNat := by
  rw [BitVec.toNat_append, ← Nat.shiftLeft_add_eq_or_of_lt mantissa.isLt]
  rfl

theorem toNat_biasedExponent (lowest : -1074 ≤ exponent) (highest : exponent ≤ 971) :
    (BitVec.ofNat 11 (exponent + 1075).toNat).toNat = (exponent + 1075).toNat := by
  rw [BitVec.toNat_ofNat]
  omega

theorem biasedExponent_ne (lowest : -1074 ≤ exponent) (highest : exponent ≤ 971) :
    BitVec.ofNat 11 (exponent + 1075).toNat ≠ -1#11 ∧
      BitVec.ofNat 11 (exponent + 1075).toNat ≠ 0#11 := by
  have stored := toNat_biasedExponent lowest highest
  constructor
  · intro ones
    rw [ones] at stored
    change 2047 = _ at stored
    omega
  · intro zero
    rw [zero] at stored
    change 0 = _ at stored
    omega

theorem pack_finite (sign : Sign) (positive : 0 < mantissa) (highest : exponent ≤ 971) :
    pack Format.binary64 (.finite sign mantissa exponent positive) =
      if mantissa.log2 = 52 then
        packComponents Format.binary64 sign (BitVec.ofNat 11 (exponent + 1075).toNat)
          (BitVec.ofNat 52 mantissa)
      else packComponents Format.binary64 sign 0#11 (BitVec.ofNat 52 mantissa) := by
  have bias : exponent + Format.binary64.exponentBias +
      Format.binary64.mantissaBitsWithoutImplicit = exponent + 1075 := by
    change exponent + 1023 + 52 = _
    omega
  have fits : ¬ 2 ^ Format.binary64.exponentBits ≤ (exponent + 1075).toNat + 1 := by
    change ¬ 2048 ≤ _
    omega
  have bits : mantissa.log2 + 1 = Format.binary64.mantissaBits ↔ mantissa.log2 = 52 := by
    change _ = 53 ↔ _
    omega
  simp only [pack, bias, if_neg fits, bits]

theorem Normal.unpack_pack (normal : Normal mantissa exponent) (sign : Sign) :
    unpack Format.binary64 (pack Format.binary64 (.finite sign mantissa exponent normal.pos)) =
      .finite sign mantissa exponent normal.pos := by
  obtain ⟨notOnes, notZero⟩ := biasedExponent_ne normal.lowest normal.highest
  have stored := toNat_biasedExponent normal.lowest normal.highest
  have leading : (1#1 ++ BitVec.ofNat 52 mantissa).toNat = mantissa := by
    have full := normal.full
    have short := normal.short
    rw [toNat_leadingBit, BitVec.toNat_ofNat]
    omega
  have bias : ((exponent + 1075).toNat : Int) -
      (Format.binary64.exponentBias + Format.binary64.mantissaBitsWithoutImplicit) = exponent := by
    have lowest := normal.lowest
    change _ - (1023 + 52) = exponent
    omega
  rw [pack_finite sign normal.pos normal.highest, if_pos normal.log2_eq]
  simp only [unpack, unpackMantissa_packComponents, unpackExponent_packComponents,
    unpackSign_packComponents, Sign.ofBitVec_toBitVec, if_neg notOnes, if_neg notZero, stored,
    leading, bias]

theorem isFinite_unpack {bits : BitVec 64}
    (notOnes : @unpackExponent Format.binary64 bits ≠ -1#11) :
    (unpack Format.binary64 bits).isFinite = true := by
  simp only [unpack, if_neg notOnes]
  split
  · split <;> rfl
  · rfl

theorem isFinite_pack (sign : Sign) (positive : 0 < mantissa) (lowest : -1074 ≤ exponent)
    (highest : exponent ≤ 971) :
    (unpack Format.binary64
      (pack Format.binary64 (.finite sign mantissa exponent positive))).isFinite = true := by
  refine isFinite_unpack ?_
  rw [pack_finite sign positive highest]
  split
  · rw [unpackExponent_packComponents]
    exact (biasedExponent_ne lowest highest).1
  · rw [unpackExponent_packComponents]
    decide

/-- A finite double is normal or has the lowest exponent. -/
theorem normal_or_lowest {bits : BitVec 64} {sign : Sign} {positive : 0 < mantissa}
    (unpacked : unpack Format.binary64 bits = .finite sign mantissa exponent positive) :
    Normal mantissa exponent ∨ mantissa < 2 ^ 52 ∧ exponent = -1074 := by
  have bias : (Format.binary64.exponentBias + Format.binary64.mantissaBitsWithoutImplicit : Int) =
      1075 := rfl
  simp only [unpack, bias] at unpacked
  split at unpacked
  · split at unpacked <;> exact UnpackedFloat.noConfusion unpacked
  next notOnes =>
    split at unpacked
    next zero =>
      split at unpacked
      · exact UnpackedFloat.noConfusion unpacked
      · cases unpacked
        rw [zero]
        exact .inr ⟨BitVec.isLt _, rfl⟩
    next notZero =>
      cases unpacked
      have mantissa := (@unpackMantissa Format.binary64 bits).isLt
      have stored := (@unpackExponent Format.binary64 bits).isLt
      have low : (@unpackExponent Format.binary64 bits).toNat ≠ 0 := fun zero =>
        notZero (BitVec.eq_of_toNat_eq zero)
      have high : (@unpackExponent Format.binary64 bits).toNat ≠ 2047 := fun ones =>
        notOnes (BitVec.eq_of_toNat_eq ones)
      refine .inl ⟨?_, ?_, ?_, ?_⟩
      · rw [toNat_leadingBit]
        exact Nat.le_add_right _ _
      · rw [toNat_leadingBit]
        change _ < 2 ^ 52 at mantissa
        omega
      · omega
      · change _ < 2048 at stored
        omega

end Packing

theorem isFinite_neg (number : Float) : (-number).isFinite = number.isFinite := by
  change (Float.Model.pack number.toModel.unpack.neg).unpack.isFinite =
    number.toModel.unpack.isFinite
  rcases unpacked : number.toModel.unpack with sign | - | sign | ⟨sign, mantissa, exponent, pos⟩
  · cases sign <;> rfl
  · rfl
  · cases sign <;> rfl
  · have range : -1074 ≤ exponent ∧ exponent ≤ 971 := by
      rcases normal_or_lowest unpacked with normal | ⟨-, lowest⟩
      · exact ⟨normal.lowest, normal.highest⟩
      · omega
    exact isFinite_pack _ pos range.1 range.2

theorem eq_of_toNat_toBits {first second : Float}
    (same : first.toModel.toBits.toNat = second.toModel.toBits.toNat) : first = second := by
  obtain ⟨⟨bits, valid⟩⟩ := first
  obtain ⟨⟨otherBits, otherValid⟩⟩ := second
  have equal : bits = otherBits := UInt64.toNat_inj.mp same
  subst equal
  rfl

/-- But for the sign, no bit of a zero is set. -/
theorem toNat_of_unpack_zero {bits : BitVec 64} {sign : Sign}
    (zero : unpack Format.binary64 bits = .zero sign) :
    bits.toNat = 0 ∨ bits.toNat = 2 ^ 63 := by
  simp only [unpack] at zero
  split at zero
  · split at zero <;> exact UnpackedFloat.noConfusion zero
  · split at zero
    next noExponent =>
      split at zero
      next noMantissa =>
        have exponent : bits.toNat / 2 ^ 52 % 2 ^ 11 = 0 := by
          simpa [unpackExponent, Nat.shiftRight_eq_div_pow] using congrArg BitVec.toNat noExponent
        have mantissa : bits.toNat % 2 ^ 52 = 0 := by
          simpa [unpackMantissa] using congrArg BitVec.toNat noMantissa
        have bound := bits.isLt
        omega
      · exact UnpackedFloat.noConfusion zero
    · exact UnpackedFloat.noConfusion zero

/-- The numbers that equal zero are the two zeros. -/
theorem beq_zero_iff {number : Float} : (number == 0) = true ↔ number = 0 ∨ number = -0 := by
  constructor
  · intro equal
    change number.toModel.unpack.beq (.zero .positive) = true at equal
    have zero : ∃ sign, number.toModel.unpack = .zero sign := by
      generalize number.toModel.unpack = unpacked at equal
      rcases unpacked with sign | - | sign | ⟨sign, mantissa, exponent, pos⟩
      · cases sign <;> contradiction
      · contradiction
      · exact ⟨sign, rfl⟩
      · cases sign <;> contradiction
    obtain ⟨sign, zero⟩ := zero
    rcases toNat_of_unpack_zero zero with positive | negative
    · exact .inl (eq_of_toNat_toBits positive)
    · exact .inr (eq_of_toNat_toBits negative)
  · rintro (rfl | rfl)
    · rfl
    · rfl

end DateCalculator.Number
