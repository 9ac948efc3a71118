import DateCalculator.Proofs.DoubleForm

/-!
Rounding to doubles, as far as it is exact or a tie. A mantissa with an exponent that has the value
of a normal double is rounded to that double; half an odd number of 54 bits goes to the even
neighbour.
-/

namespace DateCalculator.Number

open Float.Model (Format UnpackedFloat totalExponent)
open Float.Model.UnpackedFloat

/-- Two mantissas with their exponents stand for the same number. -/
def SameValue (mantissa : Nat) (exponent : Int) (other : Nat) (otherExponent : Int) : Prop :=
  ∃ shift otherShift : Nat, mantissa * 2 ^ shift = other * 2 ^ otherShift ∧
    exponent - shift = otherExponent - otherShift

section SameValue

variable {mantissa other third : Nat} {exponent otherExponent thirdExponent : Int}

theorem SameValue.symm (same : SameValue mantissa exponent other otherExponent) :
    SameValue other otherExponent mantissa exponent := by
  obtain ⟨shift, otherShift, values, exponents⟩ := same
  exact ⟨otherShift, shift, values.symm, exponents.symm⟩

theorem SameValue.trans (first : SameValue mantissa exponent other otherExponent)
    (second : SameValue other otherExponent third thirdExponent) :
    SameValue mantissa exponent third thirdExponent := by
  obtain ⟨shift, middleShift, values, exponents⟩ := first
  obtain ⟨nextShift, thirdShift, nextValues, nextExponents⟩ := second
  refine ⟨shift + nextShift, middleShift + thirdShift, ?_, by push_cast; omega⟩
  calc mantissa * 2 ^ (shift + nextShift)
      = mantissa * 2 ^ shift * 2 ^ nextShift := by rw [Nat.pow_add, Nat.mul_assoc]
    _ = other * 2 ^ nextShift * 2 ^ middleShift := by rw [values, Nat.mul_right_comm]
    _ = third * 2 ^ (middleShift + thirdShift) := by
        rw [nextValues, Nat.mul_assoc, ← Nat.pow_add, Nat.add_comm]

theorem SameValue.mul {factor otherFactor : Nat} {factorExponent otherFactorExponent : Int}
    (same : SameValue mantissa exponent other otherExponent)
    (factors : SameValue factor factorExponent otherFactor otherFactorExponent) :
    SameValue (mantissa * factor) (exponent + factorExponent) (other * otherFactor)
      (otherExponent + otherFactorExponent) := by
  obtain ⟨shift, otherShift, values, exponents⟩ := same
  obtain ⟨factorShift, otherFactorShift, factorValues, factorExponents⟩ := factors
  refine ⟨shift + factorShift, otherShift + otherFactorShift, ?_, by push_cast; omega⟩
  rw [Nat.pow_add, Nat.pow_add, Nat.mul_mul_mul_comm, values, factorValues, Nat.mul_mul_mul_comm]

theorem sameValue_shifted (mantissa shift : Nat) (exponent : Int) :
    SameValue (mantissa * 2 ^ shift) (exponent - shift) mantissa exponent :=
  ⟨0, shift, by rw [Nat.pow_zero, Nat.mul_one], by simp⟩

theorem SameValue.eq_mul (same : SameValue mantissa exponent other otherExponent)
    (le : exponent ≤ otherExponent) : mantissa = other * 2 ^ (otherExponent - exponent).toNat := by
  obtain ⟨shift, otherShift, values, exponents⟩ := same
  have split : otherShift = (otherExponent - exponent).toNat + shift := by omega
  rw [split, Nat.pow_add, ← Nat.mul_assoc] at values
  exact Nat.eq_of_mul_eq_mul_right (Nat.two_pow_pos shift) values

/-- How far an exponent can be below another one is bounded by how much longer its mantissa is. -/
theorem SameValue.exponent_lt {least bits : Nat}
    (same : SameValue mantissa exponent other otherExponent) (long : 2 ^ least ≤ other)
    (short : mantissa < 2 ^ (least + bits)) : otherExponent < exponent + bits := by
  refine Int.not_le.mp fun higher => ?_
  have power : 2 ^ bits ≤ 2 ^ (otherExponent - exponent).toNat :=
    Nat.pow_le_pow_right (by decide) (by omega)
  have product := Nat.mul_le_mul long power
  rw [← same.eq_mul (by omega), ← Nat.pow_add] at product
  exact Nat.not_le_of_lt short product

theorem Normal.exponent_le (normal : Normal other otherExponent) (full : 2 ^ 52 ≤ mantissa)
    (same : SameValue mantissa exponent other otherExponent) : exponent ≤ otherExponent :=
  Int.lt_add_one_iff.mp (same.symm.exponent_lt full normal.short)

theorem log2_mul_two_pow (positive : 0 < mantissa) (shift : Nat) :
    (mantissa * 2 ^ shift).log2 = mantissa.log2 + shift := by
  have scaled : mantissa * 2 ^ shift ≠ 0 :=
    Nat.ne_of_gt (Nat.mul_pos positive (Nat.two_pow_pos shift))
  obtain ⟨lower, upper⟩ := (Nat.log2_eq_iff (Nat.ne_of_gt positive)).mp rfl
  refine (Nat.log2_eq_iff scaled).mpr ⟨?_, ?_⟩
  · rw [Nat.pow_add]
    exact Nat.mul_le_mul_right _ lower
  · rw [Nat.add_right_comm, Nat.pow_add]
    exact Nat.mul_lt_mul_of_pos_right upper (Nat.two_pow_pos shift)

theorem exists_normal (positive : 0 < mantissa) (short : mantissa ≤ 2 ^ 53)
    (lowest : -1022 ≤ exponent) (highest : exponent ≤ 970) :
    ∃ (rounded : Nat) (roundedExponent : Int), Normal rounded roundedExponent ∧
      SameValue mantissa exponent rounded roundedExponent := by
  obtain largest | smaller := Nat.eq_or_lt_of_le short
  · exact ⟨2 ^ 52, exponent + 1, ⟨Nat.le_refl _, by decide, by omega, by omega⟩, 0, 1,
      by rw [largest]; rfl, by omega⟩
  · have bits : mantissa.log2 < 53 := (Nat.log2_lt (Nat.ne_of_gt positive)).mpr smaller
    have scaled : mantissa * 2 ^ (52 - mantissa.log2) ≠ 0 :=
      Nat.ne_of_gt (Nat.mul_pos positive (Nat.two_pow_pos _))
    have scaledBits : (mantissa * 2 ^ (52 - mantissa.log2)).log2 = 52 := by
      rw [log2_mul_two_pow positive]
      omega
    obtain ⟨full, short⟩ := (Nat.log2_eq_iff scaled).mp scaledBits
    exact ⟨_, exponent - (52 - mantissa.log2 : Nat), ⟨full, short, by omega, by omega⟩,
      (sameValue_shifted mantissa (52 - mantissa.log2) exponent).symm⟩

end SameValue

section Rounding

variable {mantissa rounded : Nat} {exponent roundedExponent : Int}

theorem targetExponent_eq (mantissa : Nat) (exponent : Int) :
    Format.binary64.targetExponent (totalExponent mantissa exponent) =
      max (mantissa.log2 + exponent - 52) (-1074) := by
  simp only [Format.targetExponent, totalExponent, Format.mantissaBits, Format.minExponent]
  omega

/-- The exponent to round to is that of the normal double of the same value. -/
theorem Normal.targetExponent_of_sameValue (normal : Normal rounded roundedExponent)
    (positive : 0 < mantissa) (same : SameValue mantissa exponent rounded roundedExponent) :
    Format.binary64.targetExponent (totalExponent mantissa exponent) = roundedExponent := by
  have lowest := normal.lowest
  have bits := normal.log2_eq
  rw [targetExponent_eq]
  rcases Int.le_total exponent roundedExponent with le | ge
  · rw [same.eq_mul le, log2_mul_two_pow normal.pos]
    omega
  · rw [same.symm.eq_mul ge, log2_mul_two_pow positive] at bits
    omega

theorem shiftRight_exact (mantissa shift : Nat) :
    (⟨mantissa * 2 ^ shift, false, false⟩ : ExtendedMantissa) >>> shift =
      ⟨mantissa, false, false⟩ := by
  induction shift generalizing mantissa with
  | zero => rw [Nat.pow_zero, Nat.mul_one]; rfl
  | succ shift ih =>
      have scaled : mantissa * 2 ^ (shift + 1) = 2 * mantissa * 2 ^ shift := by
        rw [Nat.pow_succ']
        ac_rfl
      change ExtendedMantissa.shiftRightOne
        ((⟨mantissa * 2 ^ (shift + 1), false, false⟩ : ExtendedMantissa) >>> shift) = _
      rw [scaled, ih]
      simp [ExtendedMantissa.shiftRightOne]

theorem Normal.shiftToTargetExponent_eq (normal : Normal rounded roundedExponent)
    (positive : 0 < mantissa) (same : SameValue mantissa exponent rounded roundedExponent)
    (le : exponent ≤ roundedExponent) :
    shiftToTargetExponent Format.binary64 mantissa exponent .exact =
      (⟨rounded, false, false⟩, roundedExponent) := by
  have back : exponent + ((roundedExponent - exponent).toNat : Int) = roundedExponent := by omega
  rw [shiftToTargetExponent, normal.targetExponent_of_sameValue positive same, shiftToExponent,
    back, same.eq_mul le]
  exact congrArg (·, roundedExponent) (shiftRight_exact rounded _)

/-- What the second shift makes of the rounded mantissa is the result. -/
theorem Normal.roundWithAccuracy_of_shift (normal : Normal rounded roundedExponent) (sign : Sign)
    {accuracy : Accuracy} {extended : ExtendedMantissa} {shiftedExponent : Int}
    (first : shiftToTargetExponent Format.binary64 mantissa exponent accuracy =
      (extended, shiftedExponent))
    (positive : 0 < extended.roundedMantissa)
    (same : SameValue extended.roundedMantissa shiftedExponent rounded roundedExponent)
    (le : shiftedExponent ≤ roundedExponent) :
    roundWithAccuracy Format.binary64 sign mantissa exponent accuracy =
      .finite sign rounded roundedExponent normal.pos := by
  have second := normal.shiftToTargetExponent_eq positive same le
  simp only [roundWithAccuracy, first, second, Nat.ne_of_gt normal.pos, dite_false]

theorem Normal.roundWithAccuracy_eq (normal : Normal rounded roundedExponent) (sign : Sign)
    (positive : 0 < mantissa) (same : SameValue mantissa exponent rounded roundedExponent)
    (le : exponent ≤ roundedExponent) :
    roundWithAccuracy Format.binary64 sign mantissa exponent .exact =
      .finite sign rounded roundedExponent normal.pos :=
  normal.roundWithAccuracy_of_shift sign (normal.shiftToTargetExponent_eq positive same le)
    normal.pos ⟨0, 0, rfl, rfl⟩ (Int.le_refl _)

theorem Normal.round_eq (normal : Normal rounded roundedExponent) (sign : Sign)
    (positive : 0 < mantissa) (same : SameValue mantissa exponent rounded roundedExponent) :
    Float.Model.UnpackedFloat.round Format.binary64 sign mantissa exponent =
      .finite sign rounded roundedExponent normal.pos := by
  have shifted := sameValue_shifted mantissa (exponent - roundedExponent).toNat exponent
  rw [Float.Model.UnpackedFloat.round, normal.targetExponent_of_sameValue positive same,
    decreaseExponent, Nat.shiftLeft_eq]
  exact normal.roundWithAccuracy_eq sign (Nat.mul_pos positive (Nat.two_pow_pos _))
    (shifted.trans same) (by omega)

/-- Half way between two whole mantissas the even one is taken. -/
theorem Normal.round_tie {lower : Nat} (normal : Normal rounded roundedExponent) (sign : Sign)
    (full : 2 ^ 52 ≤ lower) (short : lower < 2 ^ 53)
    (same : SameValue (lower + lower % 2) 0 rounded roundedExponent) :
    Float.Model.UnpackedFloat.round Format.binary64 sign ((2 * lower + 1) * 2 ^ 52) (-53) =
      .finite sign rounded roundedExponent normal.pos := by
  have even : 2 ^ 52 ≤ lower + lower % 2 := Nat.le_trans full (Nat.le_add_right _ _)
  have bits : ((2 * lower + 1) * 2 ^ 52).log2 = 105 := by
    have odd : (2 * lower + 1).log2 = 53 := (Nat.log2_eq_iff (by omega)).mpr (by omega)
    rw [log2_mul_two_pow (by omega), odd]
  have target : Format.binary64.targetExponent
      (totalExponent ((2 * lower + 1) * 2 ^ 52) (-53)) = 0 := by
    rw [targetExponent_eq, bits]
    omega
  have first : shiftToTargetExponent Format.binary64 ((2 * lower + 1) * 2 ^ 52) (-53) .exact =
      (⟨lower, true, false⟩, 0) := by
    have half : ExtendedMantissa.shiftRightOne ⟨2 * lower + 1, false, false⟩ =
        ⟨lower, true, false⟩ := by
      simp [ExtendedMantissa.shiftRightOne]
      omega
    rw [shiftToTargetExponent, target, ← half, ← shiftRight_exact (2 * lower + 1) 52]
    rfl
  rw [Float.Model.UnpackedFloat.round, target]
  exact normal.roundWithAccuracy_of_shift sign first (Nat.lt_of_lt_of_le (by omega) even) same
    (normal.exponent_le even same)

end Rounding

end DateCalculator.Number
