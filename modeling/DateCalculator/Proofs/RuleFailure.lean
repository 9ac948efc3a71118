import DateCalculator.Arithmetic

/-!
What the operators fail with. Each rule fails for its own operands only: nothing in it depends on
where an expression was written or on how its operator was looked up.
-/

namespace DateCalculator

inductive Failure.OfRule : Failure → Prop
  | mismatchedOperands (operator left right) : OfRule (.mismatchedOperands operator left right)
  | mismatchedOperand (operand) : OfRule (.mismatchedOperand operand)
  | divisionByZero : OfRule .divisionByZero
  | notFinite (left right) : OfRule (.notFinite left right)
  | durationTooLong (span) : OfRule (.durationTooLong span)
  | millisecondsOutOfRange (amount) : OfRule (.millisecondsOutOfRange amount)
  | outsideCalendar (moment forward span) : OfRule (.outsideCalendar moment forward span)
  | offsetTooLarge : OfRule .offsetTooLarge
  | numeralTooLong : OfRule .numeralTooLong

/-- Has a result, or fails for its operands. -/
def FailsInRule {Result : Type} (outcome : Except Failure Result) : Prop :=
  ∀ failure, outcome = .error failure → failure.OfRule

section FailsInRule

variable {First Second : Type}

theorem failsInRule_ok (value : First) : FailsInRule (.ok value) := by
  rintro failure ⟨⟩

theorem failsInRule_error {failure : Failure} (ofRule : failure.OfRule) :
    FailsInRule (.error failure : Except Failure First) := by
  rintro _ ⟨⟩
  exact ofRule

theorem FailsInRule.bind {outcome : Except Failure First} {next : First → Except Failure Second}
    (first : FailsInRule outcome) (later : ∀ value, FailsInRule (next value)) :
    FailsInRule (outcome >>= next) := by
  cases outcome with
  | ok value => exact later value
  | error failure => exact failsInRule_error (first failure rfl)

end FailsInRule

namespace Arithmetic

theorem refuse_ofRule {failure : Failure} (ofRule : failure.OfRule) (values : List Value) :
    (refuse values failure).OfRule := by
  unfold refuse
  split
  · exact ofRule
  · exact .numeralTooLong

theorem finite_failsInRule (left right result : Float) :
    FailsInRule (finite left right result) := by
  unfold finite
  split
  · exact failsInRule_ok _
  · exact failsInRule_error (.notFinite left right)

theorem quotient_failsInRule (left right : Float) : FailsInRule (quotient left right) := by
  unfold quotient
  split
  · exact failsInRule_error .divisionByZero
  · exact finite_failsInRule left right (left / right)

theorem shift_failsInRule (moment : DateTime) (forward : Bool) (span : Duration) :
    FailsInRule (shift moment forward span) := by
  unfold shift
  split
  · exact failsInRule_error .offsetTooLarge
  · split
    · exact failsInRule_ok _
    · exact failsInRule_error (refuse_ofRule (.outsideCalendar moment forward span) _)

theorem lengthOf_failsInRule (span : Duration) : FailsInRule (lengthOf span) := by
  unfold lengthOf
  split
  · exact failsInRule_ok _
  · exact failsInRule_error (refuse_ofRule (.durationTooLong span) _)

theorem ofLength_failsInRule (milliseconds : Float) : FailsInRule (ofLength milliseconds) := by
  unfold ofLength
  split
  · exact failsInRule_ok _
  · exact failsInRule_error (.millisecondsOutOfRange milliseconds)

theorem scale_failsInRule (span : Duration) (factor : Float) : FailsInRule (scale span factor) :=
  (lengthOf_failsInRule span).bind fun length => ofLength_failsInRule (length * factor)

theorem shrink_failsInRule (span : Duration) (divisor : Float) :
    FailsInRule (shrink span divisor) := by
  unfold shrink
  split
  · exact failsInRule_error .divisionByZero
  · exact (lengthOf_failsInRule span).bind fun length => ofLength_failsInRule (length / divisor)

theorem ratio_failsInRule (left right : Duration) : FailsInRule (ratio left right) := by
  unfold ratio
  split
  · exact failsInRule_error .divisionByZero
  · exact (lengthOf_failsInRule left).bind fun dividend =>
      (lengthOf_failsInRule right).bind fun divisor => ofLength_failsInRule (dividend / divisor)

theorem operate_failsInRule (operator : Operator) (left right : Value) :
    FailsInRule (operate operator left right) := by
  fun_cases operate operator left right with
  | case1 left right | case5 left right | case9 left right => exact finite_failsInRule left right _
  | case2 moment span | case3 span moment => exact shift_failsInRule moment true span
  | case6 moment span => exact shift_failsInRule moment false span
  | case4 | case7 | case8 => exact failsInRule_ok _
  | case10 span factor | case11 factor span => exact scale_failsInRule span factor
  | case12 left right => exact quotient_failsInRule left right
  | case13 left right => exact ratio_failsInRule left right
  | case14 span divisor => exact shrink_failsInRule span divisor
  | case15 operator left right =>
      exact failsInRule_error (refuse_ofRule (.mismatchedOperands operator left right) _)

theorem negate_failsInRule (operand : Value) : FailsInRule (negate operand) := by
  cases operand with
  | number number => exact failsInRule_ok _
  | duration span => exact failsInRule_ok _
  | dateTime moment => exact failsInRule_error (.mismatchedOperand _)

/-- Applying an operator fails in its rule, or because nothing is known by its symbol. -/
theorem apply_failsInRule_or (symbol : String) (left right : Value) :
    FailsInRule (apply symbol left right) ∨
      Operator.ofSymbol? symbol = none ∧
        apply symbol left right = .error (.unknownOperator symbol) := by
  unfold apply
  split
  · exact .inl (operate_failsInRule _ left right)
  · rename_i unknown
    exact .inr ⟨unknown, rfl⟩

end Arithmetic

end DateCalculator
