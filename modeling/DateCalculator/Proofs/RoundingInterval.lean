import DateCalculator.Number.Shortest
import DateCalculator.Proofs.DoubleForm

/-!
The rounding interval of a double: what lies between the midpoints to the doubles beside it, and the
midpoints themselves if its mantissa is even. No other double is nearer to a number in there, so the
number is read as that double.
-/

namespace DateCalculator.Number

open Float.Model.UnpackedFloat

/-- The number that a mantissa and an exponent stand for. -/
def binary (mantissa : Nat) (exponent : Int) : ℚ := mantissa * 2 ^ exponent

/-- A finite double without its sign. -/
def magnitude? (number : Float) : Option ℚ :=
  match number.toModel.unpack with
  | .zero _ => some 0
  | .finite _ mantissa exponent _ => some (binary mantissa exponent)
  | _ => none

/-- What can be mantissa and exponent of a double. The lowest exponent is that of zero, too. -/
structure Representable (mantissa : Nat) (exponent : Int) : Prop where
  short : mantissa < 2 ^ 53
  lowest : -1074 ≤ exponent
  full : 2 ^ 52 ≤ mantissa ∨ exponent = -1074

theorem representable_of_unpack {number : Float} {sign : Sign} {mantissa : Nat} {exponent : Int}
    {positive : 0 < mantissa}
    (unpacked : number.toModel.unpack = .finite sign mantissa exponent positive) :
    Representable mantissa exponent := by
  rcases normal_or_lowest unpacked with normal | ⟨short, lowest⟩
  · exact ⟨normal.short, normal.lowest, .inl normal.full⟩
  · exact ⟨by omega, by omega, .inr lowest⟩

theorem exists_representable {number : Float} {magnitude : ℚ}
    (found : magnitude? number = some magnitude) :
    ∃ mantissa exponent,
      Representable mantissa exponent ∧ magnitude = binary mantissa exponent := by
  unfold magnitude? at found
  split at found
  next =>
    cases found
    exact ⟨0, -1074, ⟨by decide, by decide, .inr rfl⟩, by simp [binary]⟩
  next unpacked =>
    cases found
    exact ⟨_, _, representable_of_unpack unpacked, rfl⟩
  next => contradiction

/-- The midpoint to the double below, in quarters of the last bit. -/
def lowerQuarters (mantissa : Nat) (exponent : Int) : Nat :=
  if HasNarrowLowerGap mantissa exponent then 4 * mantissa - 1 else 4 * mantissa - 2

def lowerMidpoint (mantissa : Nat) (exponent : Int) : ℚ :=
  lowerQuarters mantissa exponent * 2 ^ (exponent - 2)

def upperMidpoint (mantissa : Nat) (exponent : Int) : ℚ :=
  (4 * mantissa + 2 : Nat) * 2 ^ (exponent - 2)

/-- Whether a number lies in the rounding interval of a double. -/
def Rounds (mantissa : Nat) (exponent : Int) (value : ℚ) : Prop :=
  if mantissa % 2 = 0 then
    lowerMidpoint mantissa exponent ≤ value ∧ value ≤ upperMidpoint mantissa exponent
  else lowerMidpoint mantissa exponent < value ∧ value < upperMidpoint mantissa exponent

section Quarters

variable {mantissa : Nat} {exponent : Int}

theorem quarter_pos (exponent : Int) : (0 : ℚ) < 2 ^ (exponent - 2) := zpow_pos (by norm_num) _

theorem binary_eq_quarters (mantissa : Nat) (exponent : Int) :
    binary mantissa exponent = (4 * mantissa : Nat) * 2 ^ (exponent - 2) := by
  have bit : (2 : ℚ) ^ exponent = 4 * 2 ^ (exponent - 2) := by
    rw [zpow_sub₀ (by norm_num)]
    norm_num
    ring
  rw [binary, bit]
  push_cast
  ring

theorem lowerQuarters_lt (exponent : Int) (positive : 0 < mantissa) :
    0 < lowerQuarters mantissa exponent ∧ lowerQuarters mantissa exponent < 4 * mantissa := by
  unfold lowerQuarters
  split <;> omega

theorem lowerMidpoint_pos (exponent : Int) (positive : 0 < mantissa) :
    0 < lowerMidpoint mantissa exponent :=
  mul_pos (by exact_mod_cast (lowerQuarters_lt exponent positive).1) (quarter_pos exponent)

theorem lowerMidpoint_lt (exponent : Int) (positive : 0 < mantissa) :
    lowerMidpoint mantissa exponent < binary mantissa exponent := by
  rw [binary_eq_quarters]
  exact mul_lt_mul_of_pos_right (by exact_mod_cast (lowerQuarters_lt exponent positive).2)
    (quarter_pos exponent)

theorem lt_upperMidpoint (mantissa : Nat) (exponent : Int) :
    binary mantissa exponent < upperMidpoint mantissa exponent := by
  rw [binary_eq_quarters]
  exact mul_lt_mul_of_pos_right (by exact_mod_cast Nat.lt_add_of_pos_right (by decide))
    (quarter_pos exponent)

theorem Rounds.bounds {value : ℚ} (rounds : Rounds mantissa exponent value) :
    lowerMidpoint mantissa exponent ≤ value ∧ value ≤ upperMidpoint mantissa exponent := by
  unfold Rounds at rounds
  split at rounds
  · exact rounds
  · exact ⟨le_of_lt rounds.1, le_of_lt rounds.2⟩

theorem rounds_binary (positive : 0 < mantissa) :
    Rounds mantissa exponent (binary mantissa exponent) := by
  have lower := lowerMidpoint_lt exponent positive
  have upper := lt_upperMidpoint mantissa exponent
  unfold Rounds
  split
  · exact ⟨le_of_lt lower, le_of_lt upper⟩
  · exact ⟨lower, upper⟩

/-- What lies between two numbers of the interval is in the interval, too. -/
theorem Rounds.convex {low value high : ℚ} (lower : Rounds mantissa exponent low)
    (upper : Rounds mantissa exponent high) (above : low ≤ value) (below : value ≤ high) :
    Rounds mantissa exponent value := by
  unfold Rounds at lower upper ⊢
  split at lower
  next even =>
    rw [if_pos even] at upper ⊢
    exact ⟨lower.1.trans above, below.trans upper.2⟩
  next odd =>
    rw [if_neg odd] at upper ⊢
    exact ⟨lower.1.trans_le above, below.trans_lt upper.2⟩

end Quarters

section Neighbours

variable {mantissa otherMantissa : Nat} {exponent otherExponent : Int}

theorem binary_eq_of_le (order : exponent ≤ otherExponent) :
    binary otherMantissa otherExponent =
      binary (otherMantissa * 2 ^ (otherExponent - exponent).toNat) exponent := by
  have power : (2 : ℚ) ^ otherExponent = 2 ^ (otherExponent - exponent).toNat * 2 ^ exponent := by
    rw [← zpow_natCast, ← zpow_add₀ (by norm_num)]
    congr 1
    omega
  rw [binary, binary, power]
  push_cast
  ring

/-- With a lower exponent a double is at most the longest mantissa, counted in half bits. -/
theorem binary_le_of_lt (short : otherMantissa < 2 ^ 53) (order : otherExponent < exponent) :
    binary otherMantissa otherExponent ≤ (2 ^ 54 - 2 : Nat) * 2 ^ (exponent - 2) := by
  have power : (2 : ℚ) ^ otherExponent ≤ 2 ^ (exponent - 1) :=
    zpow_le_zpow_right₀ (by norm_num) (by omega)
  have halves : (2 : ℚ) ^ (exponent - 1) = 2 * 2 ^ (exponent - 2) := by
    rw [← zpow_one_add₀ (by norm_num)]
    congr 1
    omega
  have longest : (otherMantissa : ℚ) ≤ (2 ^ 53 - 1 : Nat) := by
    exact_mod_cast (by omega : otherMantissa ≤ 2 ^ 53 - 1)
  calc
    (otherMantissa : ℚ) * 2 ^ otherExponent
        ≤ (2 ^ 53 - 1 : Nat) * 2 ^ (exponent - 1) :=
          mul_le_mul longest power (le_of_lt (zpow_pos (by norm_num) _)) (by positivity)
    _ = (2 ^ 54 - 2 : Nat) * 2 ^ (exponent - 2) := by
          rw [halves]
          norm_num
          ring

/-- Another double is as far beyond a midpoint as the double itself is before it, or farther. -/
theorem beyond_midpoint (representable : Representable mantissa exponent) (positive : 0 < mantissa)
    (other : Representable otherMantissa otherExponent)
    (different : binary otherMantissa otherExponent ≠ binary mantissa exponent) :
    binary otherMantissa otherExponent + binary mantissa exponent ≤
        2 * lowerMidpoint mantissa exponent ∨
      2 * upperMidpoint mantissa exponent ≤
        binary otherMantissa otherExponent + binary mantissa exponent := by
  have quarter := quarter_pos exponent
  have below {value : ℚ} {count : Nat} (bound : value ≤ count * 2 ^ (exponent - 2))
      (order : count + 4 * mantissa ≤ 2 * lowerQuarters mantissa exponent) :
      value + binary mantissa exponent ≤ 2 * lowerMidpoint mantissa exponent := by
    have counted : ((count + 4 * mantissa : Nat) : ℚ) * 2 ^ (exponent - 2) ≤
        (2 * lowerQuarters mantissa exponent : Nat) * 2 ^ (exponent - 2) :=
      mul_le_mul_of_nonneg_right (by exact_mod_cast order) (le_of_lt quarter)
    rw [binary_eq_quarters, lowerMidpoint]
    push_cast at counted ⊢
    linarith
  rcases Int.lt_or_le otherExponent exponent with lower | higher
  · -- Below the lowest exponent there is no double, so this mantissa is a full one.
    have full : 2 ^ 52 ≤ mantissa := by
      have lowest := other.lowest
      exact representable.full.resolve_right (by omega)
    refine .inl (below (binary_le_of_lt other.short lower) ?_)
    unfold lowerQuarters HasNarrowLowerGap
    have least : Nat.pow 2 52 = 2 ^ 52 := rfl
    have lowest := other.lowest
    split <;> omega
  · -- Counted in last bits of the one double, the other is a whole number of them as well.
    rw [binary_eq_of_le higher] at different ⊢
    generalize otherMantissa * 2 ^ (otherExponent - exponent).toNat = count at different ⊢
    rcases Nat.lt_trichotomy count mantissa with less | same | more
    · left
      refine below (le_of_eq (binary_eq_quarters count exponent)) ?_
      unfold lowerQuarters
      split <;> omega
    · exact absurd (by rw [same]) different
    · right
      have counted : ((2 * (4 * mantissa + 2) : Nat) : ℚ) * 2 ^ (exponent - 2) ≤
          (4 * count + 4 * mantissa : Nat) * 2 ^ (exponent - 2) :=
        mul_le_mul_of_nonneg_right (by exact_mod_cast (by omega)) (le_of_lt quarter)
      rw [binary_eq_quarters, binary_eq_quarters, upperMidpoint]
      push_cast at counted ⊢
      linarith

/-- No other double is nearer to a number in the rounding interval of a double, and another one is
as near only if the mantissa is even. -/
theorem Rounds.nearest {value magnitude : ℚ} (rounds : Rounds mantissa exponent value)
    (representable : Representable mantissa exponent) (positive : 0 < mantissa) {other : Float}
    (found : magnitude? other = some magnitude) (different : magnitude ≠ binary mantissa exponent) :
    |value - binary mantissa exponent| < |value - magnitude| ∨
      |value - binary mantissa exponent| = |value - magnitude| ∧ mantissa % 2 = 0 := by
  obtain ⟨otherMantissa, otherExponent, otherForm, rfl⟩ := exists_representable found
  have beyond := beyond_midpoint representable positive otherForm different
  have lower := lowerMidpoint_lt exponent positive
  have upper := lt_upperMidpoint mantissa exponent
  unfold Rounds at rounds
  split at rounds
  next even =>
    have nearer : |value - binary mantissa exponent| ≤
        |value - binary otherMantissa otherExponent| := by
      rcases beyond with below | above
      · exact (abs_le.mpr ⟨by linarith, by linarith⟩).trans (le_abs_self _)
      · exact (abs_le.mpr ⟨by linarith, by linarith⟩).trans (neg_le_abs _)
    exact (lt_or_eq_of_le nearer).imp_right fun same => ⟨same, even⟩
  next odd =>
    left
    rcases beyond with below | above
    · exact (abs_lt.mpr ⟨by linarith, by linarith⟩).trans_le (le_abs_self _)
    · exact (abs_lt.mpr ⟨by linarith, by linarith⟩).trans_le (neg_le_abs _)

end Neighbours

end DateCalculator.Number
