import DateCalculator.Proofs.GreedyBalance
import DateCalculator.Proofs.UnreportedFailures
import DateCalculator.Proofs.WholeDouble

/-!
Scaling durations by whole numbers. As long as every length is at most `2 ^ 53` milliseconds the
doubles are exact, and what is left is the last step, to the nearest whole millisecond: it moves an
odd number of at least `2 ^ 52` milliseconds.
-/

namespace DateCalculator.Arithmetic

open Number Duration

section Factors

variable {value factor : Int}

theorem halfUp_eq_iff : halfUp value = value ↔ ¬(2 ^ 52 ≤ value.natAbs ∧ value % 2 = 1) := by
  rw [halfUp]
  split <;> omega

/-- Behind an odd factor beyond the limit stands an odd product, or one that is too long. -/
theorem halfUp_of_mul (nonzero : factor ≠ 0) (short : (value * factor).natAbs ≤ 2 ^ 53)
    (settled : halfUp (value * factor) = value * factor) : halfUp value = value := by
  rw [halfUp_eq_iff] at settled ⊢
  rintro ⟨large, odd⟩
  have small : factor.natAbs < 3 := by
    refine Nat.not_le.mp fun many => ?_
    have product := Nat.mul_le_mul large many
    rw [← Int.natAbs_mul] at product
    omega
  have bits : factor = 1 ∨ factor = -1 ∨ factor = 2 ∨ factor = -2 := by omega
  rcases bits with rfl | rfl | rfl | rfl <;> omega

end Factors

section Lengths

variable {span other : Duration} {factor : Float} {multiple : Int}

theorem lengthOf_of_short (short : span.totalMilliseconds.natAbs ≤ 2 ^ 53) :
    lengthOf span = .ok (Float.ofInt span.totalMilliseconds) := by
  have largest : 2 ^ 53 < Nat.pow 2 1024 - Nat.pow 2 970 := by decide +kernel
  exact lengthOf_of_fits (Nat.lt_of_le_of_lt short largest)

theorem ofLength_of_isWhole {length : Float} {total : Int} (whole : IsWhole length total)
    (short : total.natAbs ≤ 2 ^ 53) :
    ofLength length = .ok (.duration (ofMilliseconds (halfUp total) .millisecond)) := by
  rw [ofLength, nearest?_of_isWhole whole short]

theorem scale_eq (whole : IsWhole factor multiple)
    (short : span.totalMilliseconds.natAbs ≤ 2 ^ 53) (factorShort : multiple.natAbs ≤ 2 ^ 53)
    (productShort : (span.totalMilliseconds * multiple).natAbs ≤ 2 ^ 53) :
    scale span factor = .ok (.duration
      (ofMilliseconds (halfUp (span.totalMilliseconds * multiple)) .millisecond)) := by
  have product := (isWhole_ofInt short).mul whole short factorShort productShort
  rw [scale, lengthOf_of_short short]
  exact ofLength_of_isWhole product productShort

theorem shrink_eq {total : Int} (whole : IsWhole factor multiple) (nonzero : multiple ≠ 0)
    (length : span.totalMilliseconds = total * multiple)
    (short : (total * multiple).natAbs ≤ 2 ^ 53) (factorShort : multiple.natAbs ≤ 2 ^ 53)
    (totalShort : total.natAbs ≤ 2 ^ 53) :
    shrink span factor = .ok (.duration (ofMilliseconds (halfUp total) .millisecond)) := by
  have quotient := (isWhole_ofInt short).div whole short factorShort nonzero
  rw [← length] at short quotient
  rw [shrink, whole.beq_zero nonzero factorShort, lengthOf_of_short short]
  exact ofLength_of_isWhole quotient totalShort

theorem ratio_eq (nonzero : span.totalMilliseconds ≠ 0)
    (length : other.totalMilliseconds = multiple * span.totalMilliseconds)
    (short : (multiple * span.totalMilliseconds).natAbs ≤ 2 ^ 53)
    (divisorShort : span.totalMilliseconds.natAbs ≤ 2 ^ 53)
    (factorShort : multiple.natAbs ≤ 2 ^ 53) :
    ratio other span = .ok (.duration (ofMilliseconds (halfUp multiple) .millisecond)) := by
  have quotient := (isWhole_ofInt short).div (isWhole_ofInt divisorShort) short divisorShort nonzero
  rw [← length] at short quotient
  rw [ratio, if_neg nonzero, lengthOf_of_short short, lengthOf_of_short divisorShort]
  exact ofLength_of_isWhole quotient factorShort

/-- The product has exactly the multiple of the length, whichever factor comes first, and a division
by either factor gives the other one back, a number as so many milliseconds. -/
def ScalesExactly (span : Duration) (factor : Float) (multiple : Int) : Prop :=
  ∃ product : Duration,
    operate .multiply (.duration span) (.number factor) = .ok (.duration product) ∧
    operate .multiply (.number factor) (.duration span) = .ok (.duration product) ∧
    product.totalMilliseconds = span.totalMilliseconds * multiple ∧
    (∃ back : Duration,
      operate .divide (.duration product) (.number factor) = .ok (.duration back) ∧
      back.totalMilliseconds = span.totalMilliseconds) ∧
    (span.sign ≠ 0 → ∃ quotient : Duration,
      operate .divide (.duration product) (.duration span) = .ok (.duration quotient) ∧
      quotient.totalMilliseconds = multiple)

theorem ScalesExactly.settled (scales : ScalesExactly span factor multiple)
    (whole : IsWhole factor multiple) (short : span.totalMilliseconds.natAbs ≤ 2 ^ 53)
    (factorShort : multiple.natAbs ≤ 2 ^ 53)
    (productShort : (span.totalMilliseconds * multiple).natAbs ≤ 2 ^ 53) :
    halfUp (span.totalMilliseconds * multiple) = span.totalMilliseconds * multiple := by
  obtain ⟨product, forward, -, length, -⟩ := scales
  have same : Except.ok (Value.duration product) = .ok (.duration _) :=
    forward.symm.trans (scale_eq whole short factorShort productShort)
  cases same
  rwa [totalMilliseconds_ofMilliseconds] at length

theorem scalesExactly_of_settled (whole : IsWhole factor multiple) (nonzero : multiple ≠ 0)
    (short : span.totalMilliseconds.natAbs ≤ 2 ^ 53) (factorShort : multiple.natAbs ≤ 2 ^ 53)
    (productShort : (span.totalMilliseconds * multiple).natAbs ≤ 2 ^ 53)
    (settled : halfUp (span.totalMilliseconds * multiple) = span.totalMilliseconds * multiple) :
    ScalesExactly span factor multiple := by
  have scaled := scale_eq whole short factorShort productShort
  rw [settled] at scaled
  refine ⟨_, scaled, scaled, totalMilliseconds_ofMilliseconds _ _, ?_, fun directed => ?_⟩
  · have shrunk := shrink_eq whole nonzero (totalMilliseconds_ofMilliseconds _ .millisecond)
      productShort factorShort short
    rw [halfUp_of_mul nonzero productShort settled] at shrunk
    exact ⟨_, shrunk, totalMilliseconds_ofMilliseconds _ _⟩
  · have length : span.totalMilliseconds ≠ 0 := by
      rwa [sign_eq, Ne, Int.sign_eq_zero_iff_zero] at directed
    have product : (ofMilliseconds (span.totalMilliseconds * multiple)
        .millisecond).totalMilliseconds = multiple * span.totalMilliseconds := by
      rw [totalMilliseconds_ofMilliseconds, Int.mul_comm]
    rw [Int.mul_comm] at productShort settled
    have divided := ratio_eq length product productShort short factorShort
    rw [halfUp_of_mul length productShort settled] at divided
    exact ⟨_, divided, totalMilliseconds_ofMilliseconds _ _⟩

end Lengths

/-- Scaling is exact up to the limit of whole doubles, except where the product is odd and has at
least `2 ^ 52` milliseconds: there it comes out one millisecond too high. -/
theorem scalesExactly_iff (span : Duration) (factor : Float) (multiple : Int)
    (whole : IsWhole factor multiple) (nonzero : multiple ≠ 0)
    (short : span.totalMilliseconds.natAbs ≤ 2 ^ 53) (factorShort : multiple.natAbs ≤ 2 ^ 53)
    (productShort : (span.totalMilliseconds * multiple).natAbs ≤ 2 ^ 53) :
    (ScalesExactly span factor multiple ↔
      ¬(2 ^ 52 ≤ (span.totalMilliseconds * multiple).natAbs ∧
        span.totalMilliseconds * multiple % 2 = 1)) ∧
    operate .multiply (.duration span) (.number factor) =
      .ok (.duration (ofMilliseconds (halfUp (span.totalMilliseconds * multiple)) .millisecond)) ∧
    operate .multiply (.number factor) (.duration span) =
      .ok (.duration (ofMilliseconds (halfUp (span.totalMilliseconds * multiple)) .millisecond)) ∧
    ∀ one : Float, IsWhole one 1 →
      operate .multiply (.duration span) (.number one) =
        .ok (.duration (ofMilliseconds (halfUp span.totalMilliseconds) .millisecond)) ∧
      operate .divide (.duration span) (.number one) =
        .ok (.duration (ofMilliseconds (halfUp span.totalMilliseconds) .millisecond)) := by
  have scaled := scale_eq whole short factorShort productShort
  refine ⟨?_, scaled, scaled, fun one wholeOne => ⟨?_, ?_⟩⟩
  · rw [← halfUp_eq_iff]
    exact ⟨fun scales => scales.settled whole short factorShort productShort,
      scalesExactly_of_settled whole nonzero short factorShort productShort⟩
  · have product := scale_eq wholeOne short (by decide) (by omega)
    rwa [Int.mul_one] at product
  · have length : span.totalMilliseconds = span.totalMilliseconds * 1 := (Int.mul_one _).symm
    exact shrink_eq wholeOne (by decide) length (by omega) (by decide) short

theorem scalesExactly_iff_tripled :
    IsWhole (Float.ofInt 3) 3 ∧ ScalesExactly (ofAmounts false fun _ => 1) (Float.ofInt 3) 3 := by
  have whole : IsWhole (Float.ofInt 3) 3 := isWhole_ofInt (by decide)
  exact ⟨whole, (scalesExactly_iff _ _ 3 whole (by decide) (by decide +kernel) (by decide)
    (by decide +kernel)).1.mpr (by decide +kernel)⟩

/-- One millisecond `2 ^ 52 + 1` times is one millisecond too long. -/
theorem not_scalesExactly_oddProduct :
    ¬∀ (span : Duration) (factor : Float) (multiple : Int), IsWhole factor multiple →
      multiple ≠ 0 → span.totalMilliseconds.natAbs ≤ 2 ^ 53 → multiple.natAbs ≤ 2 ^ 53 →
      (span.totalMilliseconds * multiple).natAbs ≤ 2 ^ 53 →
      ScalesExactly span factor multiple := by
  intro always
  have length : (ofMilliseconds 1 .millisecond).totalMilliseconds = 1 :=
    totalMilliseconds_ofMilliseconds _ _
  have short : (ofMilliseconds 1 .millisecond).totalMilliseconds.natAbs ≤ 2 ^ 53 := by
    rw [length]
    decide
  have whole : IsWhole (Float.ofInt (2 ^ 52 + 1)) (2 ^ 52 + 1) := isWhole_ofInt (by decide)
  have productShort : ((ofMilliseconds 1 .millisecond).totalMilliseconds * (2 ^ 52 + 1)).natAbs ≤
      2 ^ 53 := by
    rw [length]
    decide
  have scales := always _ _ _ whole (by decide) short (by decide) productShort
  have settled := scales.settled whole short (by decide) productShort
  rw [length, halfUp_eq_iff] at settled
  exact absurd (by decide) settled

end DateCalculator.Arithmetic
