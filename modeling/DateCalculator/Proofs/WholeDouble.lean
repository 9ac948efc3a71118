import DateCalculator.Proofs.ExactRounding

/-!
Doubles with a whole value. Conversions, products and exact quotients are exact up to `2 ^ 53`. The
nearest whole number is found by adding one half, and that sum has to be rounded itself from
`2 ^ 52` on: an odd value comes out one too high.
-/

namespace DateCalculator.Number

open Float.Model (Format UnpackedFloat totalExponent)
open Float.Model.UnpackedFloat

/-- The double is exactly the whole number. -/
def IsWhole (number : Float) (value : Int) : Prop :=
  match number.toModel.unpack with
  | .zero _ => value = 0
  | .finite sign mantissa exponent _ =>
      sign.apply mantissa * 2 ^ exponent.toNat = value * 2 ^ (-exponent).toNat
  | _ => False

section Sign

def signOf (value : Int) : Sign := if value < 0 then .negative else .positive

theorem apply_mul (sign : Sign) (value factor : Int) :
    sign.apply (value * factor) = sign.apply value * factor := by
  cases sign
  · exact (Int.neg_mul _ _).symm
  · rfl

theorem natAbs_apply (sign : Sign) (value : Int) : (sign.apply value).natAbs = value.natAbs := by
  cases sign
  · exact Int.natAbs_neg value
  · rfl

theorem apply_signOf (value : Int) : (signOf value).apply value.natAbs = value := by
  rw [signOf]
  split
  · change -(value.natAbs : Int) = value
    omega
  · change (value.natAbs : Int) = value
    omega

theorem signOf_apply (sign : Sign) {magnitude : Int} (positive : 0 < magnitude) :
    signOf (sign.apply magnitude) = sign := by
  cases sign
  · exact if_pos (by change -magnitude < 0; omega)
  · exact if_neg (by change ¬ magnitude < 0; omega)

theorem signOf_of_neg {value : Int} (negative : value < 0) : signOf value = .negative :=
  if_pos negative

theorem signOf_of_pos {value : Int} (positive : 0 < value) : signOf value = .positive :=
  if_neg (Int.not_lt.mpr (Int.le_of_lt positive))

theorem signOf_mul {value factor : Int} (nonzero : value ≠ 0) (factorNonzero : factor ≠ 0) :
    signOf (value * factor) = signOf value * signOf factor := by
  rcases Int.lt_or_gt_of_ne nonzero with negative | positive <;>
    rcases Int.lt_or_gt_of_ne factorNonzero with factorNegative | factorPositive
  · rw [signOf_of_pos (Int.mul_pos_of_neg_of_neg negative factorNegative), signOf_of_neg negative,
      signOf_of_neg factorNegative]
    rfl
  · rw [signOf_of_neg (Int.mul_neg_of_neg_of_pos negative factorPositive), signOf_of_neg negative,
      signOf_of_pos factorPositive]
    rfl
  · rw [signOf_of_neg (Int.mul_neg_of_pos_of_neg positive factorNegative), signOf_of_pos positive,
      signOf_of_neg factorNegative]
    rfl
  · rw [signOf_of_pos (Int.mul_pos positive factorPositive), signOf_of_pos positive,
      signOf_of_pos factorPositive]
    rfl

theorem signOf_scaled {value factor : Int} (nonzero : value ≠ 0) (positive : 0 < factor) :
    signOf (value * factor) = signOf value := by
  rw [signOf_mul nonzero (Int.ne_of_gt positive), signOf_of_pos positive]
  cases signOf value <;> rfl

theorem mul_div_sign (sign divisor : Sign) : sign * divisor / divisor = sign := by
  cases sign <;> cases divisor <;> rfl

end Sign

section Form

variable {number : Float} {value : Int}

theorem sameValue_iff {magnitude mantissa : Nat} {exponent : Int} :
    SameValue magnitude 0 mantissa exponent ↔
      mantissa * 2 ^ exponent.toNat = magnitude * 2 ^ (-exponent).toNat := by
  constructor
  · intro same
    rcases Int.le_total 0 exponent with whole | fraction
    · have zero : (-exponent).toNat = 0 := by omega
      rw [zero, same.eq_mul whole, Int.sub_zero, Nat.pow_zero, Nat.mul_one]
    · have zero : exponent.toNat = 0 := by omega
      rw [zero, same.symm.eq_mul fraction, Int.zero_sub, Nat.pow_zero, Nat.mul_one]
  · intro same
    exact ⟨(-exponent).toNat, exponent.toNat, same.symm, by omega⟩

theorem isWhole_of_normal {mantissa : Nat} {exponent : Int} (normal : Normal mantissa exponent)
    (unpacked : number.toModel.unpack = .finite (signOf value) mantissa exponent normal.pos)
    (same : SameValue value.natAbs 0 mantissa exponent) : IsWhole number value := by
  have scaled : (mantissa : Int) * 2 ^ exponent.toNat =
      value.natAbs * 2 ^ (-exponent).toNat := by
    exact_mod_cast sameValue_iff.mp same
  simp only [IsWhole, unpacked]
  rw [← apply_mul, scaled, apply_mul, apply_signOf]

theorem IsWhole.zero_or_finite (whole : IsWhole number value) :
    (∃ sign, number.toModel.unpack = .zero sign) ∧ value = 0 ∨
    ∃ (sign : Sign) (mantissa : Nat) (exponent : Int) (positive : 0 < mantissa),
      number.toModel.unpack = .finite sign mantissa exponent positive ∧
      sign.apply mantissa * 2 ^ exponent.toNat = value * 2 ^ (-exponent).toNat := by
  rcases unpacked : number.toModel.unpack with sign | - | sign | ⟨sign, mantissa, exponent, pos⟩ <;>
    simp only [IsWhole, unpacked] at whole
  · exact .inl ⟨⟨sign, rfl⟩, whole⟩
  · exact .inr ⟨sign, mantissa, exponent, pos, rfl, whole⟩

theorem exists_zero_of_isWhole (whole : IsWhole number 0) :
    ∃ sign, number.toModel.unpack = .zero sign := by
  obtain ⟨zero, -⟩ | ⟨sign, mantissa, exponent, positive, -, scaled⟩ := whole.zero_or_finite
  · exact zero
  · have magnitude := congrArg Int.natAbs scaled
    rw [Int.natAbs_mul, natAbs_apply, Int.natAbs_pow, Int.zero_mul] at magnitude
    exact absurd magnitude (Nat.ne_of_gt (Nat.mul_pos positive (Nat.two_pow_pos _)))

theorem signOf_eq_of_scaled {sign : Sign} {mantissa shift otherShift : Nat}
    (positive : 0 < mantissa) (nonzero : value ≠ 0)
    (scaled : sign.apply mantissa * 2 ^ shift = value * 2 ^ otherShift) :
    signOf value = sign := by
  have power (shift : Nat) : (0 : Int) < 2 ^ shift := Int.pow_pos (by decide)
  calc signOf value
      = signOf (value * 2 ^ otherShift) := (signOf_scaled nonzero (power otherShift)).symm
    _ = signOf (sign.apply (mantissa * 2 ^ shift)) := by rw [← scaled, apply_mul]
    _ = sign := signOf_apply sign (Int.mul_pos (by omega) (power shift))

/-- A whole double other than zero is normal, and its exponent is small. -/
theorem IsWhole.exists_normal (whole : IsWhole number value) (nonzero : value ≠ 0)
    (short : value.natAbs ≤ 2 ^ 53) :
    ∃ (mantissa : Nat) (exponent : Int) (normal : Normal mantissa exponent),
      number.toModel.unpack = .finite (signOf value) mantissa exponent normal.pos ∧
      SameValue value.natAbs 0 mantissa exponent ∧ -52 ≤ exponent ∧ exponent ≤ 1 := by
  obtain ⟨-, zero⟩ | ⟨sign, mantissa, exponent, positive, unpacked, scaled⟩ := whole.zero_or_finite
  · exact absurd zero nonzero
  · have same : SameValue value.natAbs 0 mantissa exponent := by
      have magnitude := congrArg Int.natAbs scaled
      rw [Int.natAbs_mul, Int.natAbs_mul, natAbs_apply, Int.natAbs_pow, Int.natAbs_pow] at magnitude
      exact sameValue_iff.mpr magnitude
    have least : 2 ^ 0 ≤ value.natAbs := Int.natAbs_pos.mpr nonzero
    have normal : Normal mantissa exponent := by
      rcases normal_or_lowest unpacked with normal | ⟨small, lowest⟩
      · exact normal
      · have lower : 0 < exponent + 52 := same.symm.exponent_lt least small
        omega
    have lower : 0 < exponent + 53 := same.symm.exponent_lt least normal.short
    have upper : exponent < 0 + 2 :=
      same.exponent_lt normal.full (Nat.lt_of_le_of_lt short (by decide))
    have sign := signOf_eq_of_scaled positive nonzero scaled
    subst sign
    exact ⟨mantissa, exponent, normal, unpacked, same, by omega, by omega⟩

/-- A result that is rounded to the normal double of a whole value has that value. -/
theorem isWhole_of_rounds {unpacked : UnpackedFloat} (nonzero : value ≠ 0)
    (short : value.natAbs ≤ 2 ^ 53)
    (rounds : ∀ (mantissa : Nat) (exponent : Int) (normal : Normal mantissa exponent),
      SameValue value.natAbs 0 mantissa exponent →
      unpacked = .finite (signOf value) mantissa exponent normal.pos) :
    IsWhole (.ofModel (.pack unpacked)) value := by
  obtain ⟨mantissa, exponent, normal, same⟩ : ∃ (mantissa : Nat) (exponent : Int),
      Normal mantissa exponent ∧ SameValue value.natAbs 0 mantissa exponent :=
    Number.exists_normal (Int.natAbs_pos.mpr nonzero) short (by decide) (by decide)
  rw [rounds mantissa exponent normal same]
  exact isWhole_of_normal normal (normal.unpack_pack _) same

theorem isWhole_zero {unpacked : UnpackedFloat} (zero : ∃ sign, unpacked = .zero sign) :
    IsWhole (.ofModel (.pack unpacked)) 0 := by
  obtain ⟨sign, rfl⟩ := zero
  cases sign <;> rfl

theorem IsWhole.isFinite (whole : IsWhole number value) : number.isFinite = true := by
  change number.toModel.unpack.isFinite = true
  obtain ⟨⟨sign, unpacked⟩, -⟩ | ⟨sign, mantissa, exponent, positive, unpacked, -⟩ :=
    whole.zero_or_finite <;> rw [unpacked] <;> rfl

end Form

section Operations

variable {number other : Float} {value otherValue : Int}

theorem IsWhole.neg (whole : IsWhole number value) (short : value.natAbs ≤ 2 ^ 53) :
    IsWhole (-number) (-value) := by
  by_cases zero : value = 0
  · subst zero
    obtain ⟨sign, unpacked⟩ := exists_zero_of_isWhole whole
    exact isWhole_zero ⟨-sign, by rw [unpacked]; rfl⟩
  · obtain ⟨mantissa, exponent, normal, unpacked, same, -⟩ := whole.exists_normal zero short
    refine isWhole_of_normal normal ?_ (by rwa [Int.natAbs_neg])
    change (Float.Model.pack number.toModel.unpack.neg).unpack = _
    have sign : signOf (-value) = -signOf value := by
      rcases Int.lt_or_gt_of_ne zero with negative | positive
      · rw [signOf_of_neg negative, signOf_of_pos (by omega)]
        rfl
      · rw [signOf_of_pos positive, signOf_of_neg (by omega)]
        rfl
    rw [unpacked, sign]
    exact normal.unpack_pack _

theorem IsWhole.mul (whole : IsWhole number value) (otherWhole : IsWhole other otherValue)
    (short : value.natAbs ≤ 2 ^ 53) (otherShort : otherValue.natAbs ≤ 2 ^ 53)
    (productShort : (value * otherValue).natAbs ≤ 2 ^ 53) :
    IsWhole (number * other) (value * otherValue) := by
  change IsWhole (.ofModel (.pack
    (UnpackedFloat.mul Format.binary64 number.toModel.unpack other.toModel.unpack))) _
  by_cases zero : value = 0
  · subst zero
    obtain ⟨sign, unpacked⟩ := exists_zero_of_isWhole whole
    rw [unpacked, Int.zero_mul]
    rcases otherWhole.zero_or_finite with
      ⟨⟨_, otherUnpacked⟩, -⟩ | ⟨_, _, _, _, otherUnpacked, -⟩ <;>
      exact isWhole_zero ⟨_, by rw [otherUnpacked]; rfl⟩
  obtain ⟨mantissa, exponent, normal, unpacked, same, -⟩ := whole.exists_normal zero short
  by_cases otherZero : otherValue = 0
  · subst otherZero
    obtain ⟨otherSign, otherUnpacked⟩ := exists_zero_of_isWhole otherWhole
    rw [unpacked, otherUnpacked, Int.mul_zero]
    exact isWhole_zero ⟨_, rfl⟩
  obtain ⟨otherMantissa, otherExponent, otherNormal, otherUnpacked, otherSame, -⟩ :=
    otherWhole.exists_normal otherZero otherShort
  rw [unpacked, otherUnpacked]
  refine isWhole_of_rounds (Int.mul_ne_zero zero otherZero) productShort
    fun rounded roundedExponent roundedNormal roundedSame => ?_
  have product := (same.mul otherSame).symm
  rw [Int.add_zero, ← Int.natAbs_mul] at product
  have full := Nat.mul_le_mul normal.full otherNormal.pos
  rw [signOf_mul zero otherZero]
  exact roundedNormal.roundWithAccuracy_eq _ (Nat.mul_pos normal.pos otherNormal.pos)
    (product.trans roundedSame)
    (roundedNormal.exponent_le (by omega) (product.trans roundedSame))

section Quotient

variable {mantissa divisor quotient : Nat} {exponent divisorExponent : Int}

theorem sameValue_dividend {divisorValue : Nat}
    (divisorSame : SameValue divisorValue 0 divisor divisorExponent)
    (same : SameValue (quotient * divisorValue) 0 mantissa exponent) :
    SameValue (quotient * divisor) divisorExponent mantissa exponent := by
  have product : SameValue (quotient * divisorValue) (0 + 0) (quotient * divisor)
      (0 + divisorExponent) := SameValue.mul ⟨0, 0, rfl, rfl⟩ divisorSame
  rw [Int.add_zero, Int.zero_add] at product
  exact product.symm.trans same

theorem sameValue_quotient {rounded : Nat} {roundedExponent : Int}
    (same : SameValue quotient 0 rounded roundedExponent)
    (near : exponent - divisorExponent ≤ 53) :
    SameValue (quotient * 2 ^ (divisorExponent - exponent + 53).toNat)
      (exponent - divisorExponent - 53) rounded roundedExponent := by
  have shifted := sameValue_shifted quotient (divisorExponent - exponent + 53).toNat 0
  have exponents : (0 : Int) - (divisorExponent - exponent + 53).toNat =
      exponent - divisorExponent - 53 := by omega
  rw [exponents] at shifted
  exact shifted.trans same

theorem dividend_eq (dividend : SameValue (quotient * divisor) divisorExponent mantissa exponent)
    (near : exponent - divisorExponent ≤ 53) :
    mantissa * 2 ^ 53 = quotient * 2 ^ (divisorExponent - exponent + 53).toNat * divisor := by
  have value := ((sameValue_shifted mantissa 53 exponent).trans dividend.symm).eq_mul (by omega)
  rw [value, Nat.mul_right_comm]
  congr 3
  omega

/-- The quotient of two normal doubles is computed with 53 more bits than the divisor has. -/
theorem divCore_eq (normal : Normal mantissa exponent)
    (divisorNormal : Normal divisor divisorExponent)
    (dividend : SameValue (quotient * divisor) divisorExponent mantissa exponent)
    (near : exponent - divisorExponent ≤ 53) (nearer : -1021 ≤ exponent - divisorExponent) :
    divCore Format.binary64 mantissa exponent divisor divisorExponent =
      (quotient * 2 ^ (divisorExponent - exponent + 53).toNat, exponent - divisorExponent - 53,
        .exact) := by
  have target : min (exponent - divisorExponent)
      (Format.binary64.targetExponent
        (totalExponent mantissa exponent - totalExponent divisor divisorExponent)) =
      exponent - divisorExponent - 53 := by
    simp only [Format.targetExponent, totalExponent, Format.mantissaBits, Format.minExponent,
      normal.log2_eq, divisorNormal.log2_eq]
    omega
  have shift : (exponent - divisorExponent - (exponent - divisorExponent - 53)).toNat = 53 := by
    omega
  simp only [divCore, target, shift, Nat.shiftLeft_eq]
  rw [dividend_eq dividend near, Nat.mul_div_cancel _ divisorNormal.pos, Nat.mul_mod_left]
  rfl

theorem full_quotient (normal : Normal mantissa exponent)
    (divisorNormal : Normal divisor divisorExponent)
    (dividend : SameValue (quotient * divisor) divisorExponent mantissa exponent)
    (near : exponent - divisorExponent ≤ 53) :
    2 ^ 52 ≤ quotient * 2 ^ (divisorExponent - exponent + 53).toNat := by
  refine Nat.not_lt.mp fun small => ?_
  have product := Nat.mul_le_mul (Nat.le_sub_one_of_lt small)
    (Nat.le_sub_one_of_lt divisorNormal.short)
  have least := Nat.mul_le_mul_right (2 ^ 53) normal.full
  rw [← dividend_eq dividend near] at product
  omega

end Quotient

theorem IsWhole.div (whole : IsWhole number (value * otherValue))
    (otherWhole : IsWhole other otherValue) (short : (value * otherValue).natAbs ≤ 2 ^ 53)
    (otherShort : otherValue.natAbs ≤ 2 ^ 53) (otherNonzero : otherValue ≠ 0) :
    IsWhole (number / other) value := by
  change IsWhole (.ofModel (.pack
    (UnpackedFloat.div Format.binary64 number.toModel.unpack other.toModel.unpack))) _
  obtain ⟨divisor, divisorExponent, divisorNormal, otherUnpacked, otherSame, low, _⟩ :=
    otherWhole.exists_normal otherNonzero otherShort
  by_cases zero : value = 0
  · subst zero
    rw [Int.zero_mul] at whole
    obtain ⟨sign, unpacked⟩ := exists_zero_of_isWhole whole
    rw [unpacked, otherUnpacked]
    exact isWhole_zero ⟨_, rfl⟩
  obtain ⟨mantissa, exponent, normal, unpacked, same, _, high⟩ :=
    whole.exists_normal (Int.mul_ne_zero zero otherNonzero) short
  have quotientShort : value.natAbs ≤ 2 ^ 53 := by
    rw [Int.natAbs_mul] at short
    exact Nat.le_trans (Nat.le_mul_of_pos_right _ (Int.natAbs_pos.mpr otherNonzero)) short
  rw [Int.natAbs_mul] at same
  have dividend := sameValue_dividend otherSame same
  have full := full_quotient normal divisorNormal dividend (by omega)
  rw [unpacked, otherUnpacked]
  refine isWhole_of_rounds zero quotientShort
    fun rounded roundedExponent roundedNormal roundedSame => ?_
  have scaled : SameValue (value.natAbs * 2 ^ (divisorExponent - exponent + 53).toNat)
      (exponent - divisorExponent - 53) rounded roundedExponent :=
    sameValue_quotient roundedSame (by omega)
  simp only [UnpackedFloat.div,
    divCore_eq normal divisorNormal dividend (by omega) (by omega), signOf_mul zero otherNonzero,
    mul_div_sign]
  exact roundedNormal.roundWithAccuracy_eq _ (by omega) scaled
    (roundedNormal.exponent_le full scaled)

theorem IsWhole.beq_zero (whole : IsWhole number value) (nonzero : value ≠ 0)
    (short : value.natAbs ≤ 2 ^ 53) : (number == 0) = false := by
  obtain ⟨mantissa, exponent, normal, unpacked, -⟩ := whole.exists_normal nonzero short
  change number.toModel.unpack.beq (0 : Float).toModel.unpack = false
  rw [unpacked]
  cases signOf value <;> rfl

end Operations

section Conversion

theorem normalize_eq {value : Int} (nonzero : value ≠ 0) (exponent : Int) (zeroSign : Sign) :
    UnpackedFloat.normalize Format.binary64 value exponent zeroSign =
      Float.Model.UnpackedFloat.round Format.binary64 (signOf value) value.natAbs exponent := by
  rcases Int.lt_or_gt_of_ne nonzero with negative | positive
  · have magnitude : (-value).toNat = value.natAbs := by omega
    simp only [UnpackedFloat.normalize, Int.compare_eq_lt.mpr negative, signOf_of_neg negative,
      magnitude]
  · have magnitude : value.toNat = value.natAbs := by omega
    simp only [UnpackedFloat.normalize, Int.compare_eq_gt.mpr positive, signOf_of_pos positive,
      magnitude]

theorem isWhole_toFloat {value : Nat} (short : value < 2 ^ 53) :
    IsWhole value.toUInt64.toFloat value := by
  change IsWhole (.ofModel (.pack
    (UnpackedFloat.ofInt Format.binary64 (value.toUInt64.toNat : Nat)))) _
  have same : value.toUInt64.toNat = value := Nat.mod_eq_of_lt (by omega)
  rw [same]
  by_cases zero : value = 0
  · subst zero
    exact isWhole_zero ⟨_, rfl⟩
  · refine isWhole_of_rounds (by omega) (by omega)
      fun rounded roundedExponent roundedNormal roundedSame => ?_
    rw [UnpackedFloat.ofInt, normalize_eq (by omega)]
    exact roundedNormal.round_eq _ (by omega) roundedSame

theorem isWhole_ofNat {value : Nat} (short : value ≤ 2 ^ 53) :
    IsWhole (Float.ofNat value) value := by
  obtain largest | smaller := Nat.eq_or_lt_of_le short
  · rw [largest]
    rfl
  · have one : IsWhole (Float.ofBits 0x3FF0000000000000) 1 := rfl
    have product := (isWhole_toFloat smaller).mul one (by omega) (by decide) (by omega)
    have scientific : Float.ofNat value =
        value.toUInt64.toFloat * Float.ofBits 0x3FF0000000000000 :=
      dif_pos ⟨smaller, by decide⟩
    rwa [scientific, ← Int.mul_one (value : Int)]

theorem isWhole_ofInt {value : Int} (short : value.natAbs ≤ 2 ^ 53) :
    IsWhole (Float.ofInt value) value := by
  cases value with
  | ofNat value => exact isWhole_ofNat short
  | negSucc value =>
      have magnitude : IsWhole (Float.ofNat (value + 1)) (value + 1 : Nat) := isWhole_ofNat short
      exact magnitude.neg short

end Conversion

section Nearest

variable {number : Float} {value : Int}

/-- What adding one half and rounding down makes of a whole number: from `2 ^ 52` on the sum is a
tie, and an odd number goes up. -/
def halfUp (value : Int) : Int :=
  if 2 ^ 52 ≤ value.natAbs ∧ value % 2 = 1 then value + 1 else value

theorem floor_of_scaled {sign : Sign} {mantissa : Nat} {exponent numerator : Int}
    {positive : 0 < mantissa}
    (unpacked : number.toModel.unpack = .finite sign mantissa exponent positive)
    (scaled : sign.apply mantissa * 2 ^ exponent.toNat * 2 =
      numerator * 2 ^ (-exponent).toNat) : floor number = numerator / 2 := by
  have power : (0 : Int) < 2 ^ (-exponent).toNat := Int.pow_pos (by decide)
  simp only [floor, unpacked]
  calc sign.apply mantissa * (Nat.pow 2 exponent.toNat : Nat) /
        (Nat.pow 2 (-exponent).toNat : Nat)
      = sign.apply mantissa * 2 ^ exponent.toNat / 2 ^ (-exponent).toNat := by norm_cast
    _ = sign.apply mantissa * 2 ^ exponent.toNat * 2 / (2 ^ (-exponent).toNat * 2) :=
        (Int.mul_ediv_mul_of_pos_left _ _ (by decide)).symm
    _ = numerator * 2 ^ (-exponent).toNat / (2 * 2 ^ (-exponent).toNat) := by
        rw [scaled, Int.mul_comm (2 ^ (-exponent).toNat)]
    _ = numerator / 2 := Int.mul_ediv_mul_of_pos_left _ _ power

theorem floor_eq (whole : IsWhole number value) : floor number = value := by
  obtain ⟨⟨sign, unpacked⟩, zero⟩ | ⟨sign, mantissa, exponent, positive, unpacked, scaled⟩ :=
    whole.zero_or_finite
  · simp only [floor, unpacked, zero]
  · have doubled : sign.apply mantissa * 2 ^ exponent.toNat * 2 =
        value * 2 * 2 ^ (-exponent).toNat := by rw [scaled, Int.mul_right_comm]
    rw [floor_of_scaled unpacked doubled, Int.mul_ediv_cancel _ (by decide)]

theorem add_half_eq (whole : IsWhole number value) (nonzero : value ≠ 0)
    (short : value.natAbs ≤ 2 ^ 53) :
    number + 0.5 = .ofModel (.pack (Float.Model.UnpackedFloat.round Format.binary64
      (signOf (2 * value + 1)) ((2 * value + 1).natAbs * 2 ^ 52) (-53))) := by
  obtain ⟨mantissa, exponent, normal, unpacked, same, low, -⟩ := whole.exists_normal nonzero short
  change Float.ofModel (.pack
    (UnpackedFloat.add Format.binary64 number.toModel.unpack (0.5 : Float).toModel.unpack)) = _
  have half : (0.5 : Float).toModel.unpack = .finite .positive (2 ^ 52) (-53) (by decide) := rfl
  have smaller : min exponent (-53) = -53 := by omega
  have shifted : mantissa * 2 ^ (exponent - -53).toNat = value.natAbs * 2 ^ 53 := by
    have left := sameValue_shifted mantissa (exponent - -53).toNat exponent
    have right := sameValue_shifted value.natAbs 53 0
    have equal := ((left.trans same.symm).trans right.symm).eq_mul (by omega)
    have none : ((0 : Int) - (53 : Nat) - (exponent - (exponent - -53).toNat)).toNat = 0 := by omega
    rwa [none, Nat.pow_zero, Nat.mul_one] at equal
  have sum : (signOf value).apply (value.natAbs * 2 ^ 53 : Nat) +
      Sign.positive.apply (2 ^ 52 : Nat) = (2 * value + 1) * 2 ^ 52 := by
    rw [Int.natCast_mul, apply_mul, apply_signOf]
    change value * 9007199254740992 + 4503599627370496 = _
    omega
  rw [unpacked, half]
  simp only [UnpackedFloat.add, smaller, decreaseExponent, Nat.shiftLeft_eq, shifted]
  have none : 2 ^ 52 * 2 ^ (-53 - -53 : Int).toNat = 2 ^ 52 := rfl
  rw [none, sum, normalize_eq (by omega), signOf_scaled (by omega) (by decide), Int.natAbs_mul]
  rfl

/-- Half of an odd number of at most 53 bits is a double, so the sum with one half is exact. -/
theorem floor_add_half (whole : IsWhole number value) (nonzero : value ≠ 0)
    (short : value.natAbs ≤ 2 ^ 53) (small : (2 * value + 1).natAbs < 2 ^ 53) :
    floor (number + 0.5) = value := by
  obtain ⟨mantissa, exponent, normal, same⟩ : ∃ (mantissa : Nat) (exponent : Int),
      Normal mantissa exponent ∧ SameValue (2 * value + 1).natAbs (-1) mantissa exponent :=
    exists_normal (by omega) (Nat.le_of_lt small) (by decide) (by decide)
  have scaled : SameValue ((2 * value + 1).natAbs * 2 ^ 52) (-53) mantissa exponent :=
    (sameValue_shifted (2 * value + 1).natAbs 52 (-1)).trans same
  have unpacked : (number + 0.5).toModel.unpack =
      .finite (signOf (2 * value + 1)) mantissa exponent normal.pos := by
    have positive : 0 < (2 * value + 1).natAbs * 2 ^ 52 := by omega
    rw [add_half_eq whole nonzero short, normal.round_eq _ positive scaled]
    exact normal.unpack_pack _
  have below : exponent < -1 + 1 := same.exponent_lt normal.full small
  have integral : exponent.toNat = 0 := by omega
  have fractional : (-exponent).toNat = (-1 - exponent).toNat + 1 := by omega
  have doubled : (signOf (2 * value + 1)).apply mantissa * 2 ^ exponent.toNat * 2 =
      (2 * value + 1) * 2 ^ (-exponent).toNat := by
    rw [same.symm.eq_mul (by omega), integral, fractional, Int.natCast_mul, apply_mul,
      apply_signOf, Int.pow_succ, Int.pow_zero, Int.mul_one, Int.mul_assoc]
    norm_cast
  rw [floor_of_scaled unpacked doubled]
  omega

/-- The sum with one half is a tie and goes to the even neighbour. -/
theorem isWhole_add_half (whole : IsWhole number value) (short : value.natAbs ≤ 2 ^ 53)
    (large : 2 ^ 53 ≤ (2 * value + 1).natAbs) : IsWhole (number + 0.5) (halfUp value) := by
  rw [add_half_eq whole (by omega) short]
  by_cases largest : value = 2 ^ 53
  · subst largest
    rfl
  · have odd : (2 * value + 1).natAbs = 2 * ((2 * value + 1).natAbs / 2) + 1 := by omega
    have sign : signOf (2 * value + 1) = signOf (halfUp value) := by
      rcases Int.lt_or_gt_of_ne (by omega : value ≠ 0) with negative | positive
      · rw [signOf_of_neg (by omega), signOf_of_neg (by rw [halfUp]; split <;> omega)]
      · rw [signOf_of_pos (by omega), signOf_of_pos (by rw [halfUp]; split <;> omega)]
    have neighbour : (halfUp value).natAbs =
        (2 * value + 1).natAbs / 2 + (2 * value + 1).natAbs / 2 % 2 := by
      rw [halfUp]
      split <;> omega
    rw [odd, sign]
    refine isWhole_of_rounds (by omega) (by omega) fun rounded roundedExponent normal same => ?_
    rw [neighbour] at same
    exact normal.round_tie _ (by omega) (by omega) same

theorem nearest?_of_isWhole (whole : IsWhole number value) (short : value.natAbs ≤ 2 ^ 53) :
    nearest? number = some (halfUp value) := by
  rw [nearest?, if_pos whole.isFinite]
  refine congrArg some ?_
  by_cases zero : value = 0
  · subst zero
    obtain ⟨sign, unpacked⟩ := exists_zero_of_isWhole whole
    change floor (.ofModel (.pack
      (UnpackedFloat.add Format.binary64 number.toModel.unpack (0.5 : Float).toModel.unpack))) = _
    rw [unpacked]
    cases sign <;> rfl
  · by_cases small : (2 * value + 1).natAbs < 2 ^ 53
    · rw [floor_add_half whole zero short small, halfUp, if_neg (by omega)]
    · exact floor_eq (isWhole_add_half whole short (by omega))

end Nearest

end DateCalculator.Number
