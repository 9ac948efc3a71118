import DateCalculator.Arithmetic
import DateCalculator.Proofs.GreedyBalance

/-!
Sums and differences of durations. The lengths add up, and the amounts are the greedy balance from
the longest unit of the operands, days at most. The sum is associative as long as nothing cancels:
then a balance uses the unit that it starts with, and brackets do not change the unit.
-/

namespace DateCalculator.Duration

open TimeUnit

theorem length_balanceUnit (first second : Duration) :
    (balanceUnit first second).length =
      min (max first.largestUnit.length second.largestUnit.length) TimeUnit.day.length := by
  rw [balanceUnit, length_shorter, length_longer]

theorem balanceUnit_comm (first second : Duration) :
    balanceUnit first second = balanceUnit second first := by
  refine eq_of_length_eq ?_
  rw [length_balanceUnit, length_balanceUnit, Nat.max_comm]

theorem totalMilliseconds_add (first second : Duration) :
    (first.add second).totalMilliseconds = first.totalMilliseconds + second.totalMilliseconds :=
  totalMilliseconds_ofMilliseconds _ _

theorem totalMilliseconds_sub (first second : Duration) :
    (first.sub second).totalMilliseconds = first.totalMilliseconds - second.totalMilliseconds :=
  totalMilliseconds_ofMilliseconds _ _

theorem add_comm (first second : Duration) : first.add second = second.add first := by
  rw [add, add, Int.add_comm, balanceUnit_comm]

/-- None of the durations is negative, or none is positive. -/
def SameDirection (spans : List Duration) : Prop :=
  (∀ span ∈ spans, 0 ≤ span.sign) ∨ ∀ span ∈ spans, span.sign ≤ 0

section SameDirection

variable {first second third : Duration}

theorem sameDirection_iff {spans : List Duration} :
    SameDirection spans ↔ (∀ span ∈ spans, 0 ≤ span.totalMilliseconds) ∨
      ∀ span ∈ spans, span.totalMilliseconds ≤ 0 := by
  simp only [SameDirection, sign_eq, Int.sign_nonneg_iff, Int.sign_nonpos_iff]

theorem SameDirection.subset {spans others : List Duration} (same : SameDirection others)
    (subset : spans ⊆ others) : SameDirection spans :=
  same.imp (fun signs span member => signs span (subset member))
    fun signs span member => signs span (subset member)

theorem natAbs_totalMilliseconds_add (same : SameDirection [first, second]) :
    (first.add second).totalMilliseconds.natAbs =
      first.totalMilliseconds.natAbs + second.totalMilliseconds.natAbs := by
  rw [totalMilliseconds_add]
  rcases sameDirection_iff.mp same with signs | signs
  · have firstSign := signs first (by simp)
    have secondSign := signs second (by simp)
    omega
  · have firstSign := signs first (by simp)
    have secondSign := signs second (by simp)
    omega

/-- Without cancellation a sum has an amount in the unit that it is balanced from. -/
theorem length_largestUnit_add (same : SameDirection [first, second]) :
    (first.add second).largestUnit.length =
      min (max first.largestUnit.length second.largestUnit.length) TimeUnit.day.length := by
  have sum := natAbs_totalMilliseconds_add same
  have balanced : Balanced (balanceUnit first second) (first.add second) :=
    balanced_ofMilliseconds _ _
  have unit := length_balanceUnit first second
  have millisecond : TimeUnit.millisecond.length = 1 := rfl
  have day : TimeUnit.day.length = 86400000 := rfl
  by_cases zero : (first.add second).totalMilliseconds = 0
  · have short (span : Duration) (none : span.totalMilliseconds = 0) :
        span.largestUnit.length = 1 := by
      rcases span.length_largestUnit_le with ⟨-, shortest⟩ | long
      · rw [shortest, millisecond]
      · have positive := span.largestUnit.length_pos
        omega
    rw [short _ zero, short first (by omega), short second (by omega), day]
    rfl
  · have long : (balanceUnit first second).length ≤
        (first.add second).totalMilliseconds.natAbs := by
      rcases first.length_largestUnit_le with ⟨-, shortFirst⟩ | longFirst <;>
        rcases second.length_largestUnit_le with ⟨-, shortSecond⟩ | longSecond
      · rw [unit, shortFirst, shortSecond, millisecond]
        omega
      · rw [unit, shortFirst, millisecond]
        omega
      · rw [unit, shortSecond, millisecond]
        omega
      · omega
    rw [balanced.largestUnit_eq long, unit]

theorem balanceUnit_add (same : SameDirection [first, second, third]) :
    balanceUnit (first.add second) third = balanceUnit first (second.add third) := by
  have left : SameDirection [first, second] := same.subset (by simp)
  have right : SameDirection [second, third] := same.subset (by simp)
  refine eq_of_length_eq ?_
  rw [length_balanceUnit, length_balanceUnit, length_largestUnit_add left,
    length_largestUnit_add right]
  omega

theorem add_assoc (same : SameDirection [first, second, third]) :
    (first.add second).add third = first.add (second.add third) := by
  have totals : (first.add second).totalMilliseconds + third.totalMilliseconds =
      first.totalMilliseconds + (second.add third).totalMilliseconds := by
    rw [totalMilliseconds_add, totalMilliseconds_add, Int.add_assoc]
  rw [add, totals, balanceUnit_add same]
  rfl

end SameDirection

/-- The laws of sum and difference: the length is the sum or difference of the lengths, the amounts
are its greedy balance from the longest unit of both operands, days at most, the sum does not depend
on the order of its operands and, in one direction, not on brackets either. -/
theorem sum_and_difference (first second : Duration) :
    Arithmetic.operate .add (.duration first) (.duration second) =
      .ok (.duration (first.add second)) ∧
    Arithmetic.operate .subtract (.duration first) (.duration second) =
      .ok (.duration (first.sub second)) ∧
    (first.add second).totalMilliseconds = first.totalMilliseconds + second.totalMilliseconds ∧
    (first.sub second).totalMilliseconds = first.totalMilliseconds - second.totalMilliseconds ∧
    (∃ unit : TimeUnit,
      unit.length =
        min (max first.largestUnit.length second.largestUnit.length) TimeUnit.day.length ∧
      first.add second =
        ofMilliseconds (first.totalMilliseconds + second.totalMilliseconds) unit ∧
      first.sub second =
        ofMilliseconds (first.totalMilliseconds - second.totalMilliseconds) unit ∧
      Balanced unit (first.add second) ∧ Balanced unit (first.sub second) ∧
      ∀ other : TimeUnit, TimeUnit.day.length < other.length ∨ unit.length < other.length →
        (first.add second).get other = 0 ∧ (first.sub second).get other = 0) ∧
    first.add second = second.add first ∧
    ∀ third : Duration, SameDirection [first, second, third] →
      (first.add second).add third = first.add (second.add third) := by
  have unit := length_balanceUnit first second
  have sum : Balanced (balanceUnit first second) (first.add second) := balanced_ofMilliseconds _ _
  have difference : Balanced (balanceUnit first second) (first.sub second) :=
    balanced_ofMilliseconds _ _
  refine ⟨rfl, rfl, totalMilliseconds_add first second, totalMilliseconds_sub first second,
    ⟨balanceUnit first second, unit, rfl, rfl, sum, difference, ?_⟩, add_comm first second,
    fun third => add_assoc⟩
  intro other longer
  have above : (balanceUnit first second).length < other.length := by omega
  exact ⟨sum.above other above, difference.above other above⟩

/-- So many of one unit. -/
def inUnit (negative : Bool) (count : Nat) (unit : TimeUnit) : Duration :=
  ofAmounts negative fun other => if other = unit then count else 0

theorem sum_and_difference_hours :
    SameDirection [inUnit true 20 .hour, inUnit true 300 .minute, inUnit true 2 .week] ∧
    ((inUnit true 20 .hour).add (inUnit true 300 .minute)).add (inUnit true 2 .week) =
      (inUnit true 20 .hour).add ((inUnit true 300 .minute).add (inUnit true 2 .week)) ∧
    ((inUnit true 20 .hour).add (inUnit true 300 .minute)).text = "-PT25H" := by
  have same : SameDirection [inUnit true 20 .hour, inUnit true 300 .minute, inUnit true 2 .week] :=
    .inr (by decide)
  obtain ⟨-, -, -, -, -, -, associative⟩ :=
    sum_and_difference (inUnit true 20 .hour) (inUnit true 300 .minute)
  exact ⟨same, associative _ same, by decide +kernel⟩

-- Where a sum cancels, brackets matter: a day and minus a day leave no unit to balance from.
example : ((inUnit false 1 .day).add (inUnit true 1 .day)).add (inUnit false 36 .hour) ≠
    (inUnit false 1 .day).add ((inUnit true 1 .day).add (inUnit false 36 .hour)) := by
  decide +kernel

end DateCalculator.Duration
