import DateCalculator.Proofs.CalendarShift
import DateCalculator.Proofs.DoubleForm

/-!
How an operation ends. The symbol is looked up first, then the rule for the kinds of the operands,
then a divisor is compared with zero; only then can a rule leave the range of values. Sums and
differences of durations and differences of moments never do.
-/

namespace DateCalculator

/-- A duration within a value has no amount beyond `10 ^ 300`. -/
def Value.Moderate : Value → Prop
  | .duration span => span.Moderate
  | _ => True

/-- A number that is zero, with either sign, or a duration without length. -/
def Value.IsZero : Value → Prop
  | .number value => value = 0 ∨ value = -0
  | .duration span => span.totalMilliseconds = 0
  | .dateTime _ => False

theorem Value.Moderate.printable {value : Value} (moderate : value.Moderate) : value.Printable := by
  cases value with
  | number number => trivial
  | dateTime moment => trivial
  | duration span => exact (Duration.shiftable_of_moderate moderate).1

theorem Operator.ofSymbol?_eq_none_iff {symbol : String} :
    ofSymbol? symbol = none ↔ symbol ∉ ["+", "-", "*", "/"] := by
  have symbols : ["+", "-", "*", "/"] = all.map Operator.symbol := rfl
  rw [symbols, ofSymbol?, List.find?_eq_none, List.mem_map]
  simp only [decide_eq_true_eq, not_exists, not_and]

namespace Arithmetic

/-- Ends in a value of the kind or out of range, and in nothing else. -/
def Computes (kind : Kind) (outcome : Except Failure Value) : Prop :=
  (∃ value, outcome = .ok value ∧ value.kind = kind) ∨
    ∃ failure, outcome = .error failure ∧ failure.category? = some .outOfRange

theorem computes_ok (value : Value) : Computes value.kind (.ok value) :=
  .inl ⟨value, rfl, rfl⟩

theorem computes_error {kind : Kind} {failure : Failure}
    (outside : failure.category? = some .outOfRange) : Computes kind (.error failure) :=
  .inr ⟨failure, rfl, outside⟩

theorem computes_finite (left right result : Float) :
    Computes .number (finite left right result) := by
  unfold finite
  split
  · exact computes_ok (.number result)
  · exact computes_error rfl

theorem computes_shift {span : Duration} (moderate : span.Moderate) (moment : DateTime)
    (forward : Bool) : Computes .dateTime (shift moment forward span) := by
  have shiftable := Duration.shiftable_of_moderate moderate
  rcases shift_of_shiftable shiftable moment forward with ⟨shifted, ended⟩ | outside
  · rw [ended]
    exact computes_ok (.dateTime shifted)
  · rw [outside]
    exact computes_error rfl

theorem computes_ofLength (milliseconds : Float) :
    Computes .duration (ofLength milliseconds) := by
  unfold ofLength
  split
  · exact computes_ok (.duration _)
  · exact computes_error rfl

/-- A moderate duration can be too long for a double, but then that can be reported. -/
theorem computes_lengthOf_bind {span : Duration} (moderate : span.Moderate)
    {next : Float → Except Failure Value} (later : ∀ length, Computes .duration (next length)) :
    Computes .duration (lengthOf span >>= next) := by
  by_cases fits : Number.FitsDouble span.totalMilliseconds
  · rw [lengthOf_of_fits fits]
    exact later _
  · rw [lengthOf_of_not_fits fits, refuse_duration,
      if_pos (Duration.shiftable_of_moderate moderate).1]
    exact computes_error rfl

theorem computes_scale {span : Duration} (moderate : span.Moderate) (factor : Float) :
    Computes .duration (scale span factor) :=
  computes_lengthOf_bind moderate fun length => computes_ofLength (length * factor)

/-- What a division ends in: the divisor decides, before anything is computed. -/
structure Divides (kind : Kind) (divisor : Value) (outcome : Except Failure Value) : Prop where
  zero : divisor.IsZero → outcome = .error .divisionByZero
  nonzero : ¬divisor.IsZero → Computes kind outcome

theorem divides_quotient (left right : Float) :
    Divides .number (.number right) (quotient left right) where
  zero zero := if_pos (Number.beq_zero_iff.mpr zero)
  nonzero nonzero := by
    rw [quotient, if_neg (mt Number.beq_zero_iff.mp nonzero)]
    exact computes_finite left right _

theorem divides_shrink {span : Duration} (moderate : span.Moderate) (divisor : Float) :
    Divides .duration (.number divisor) (shrink span divisor) where
  zero zero := if_pos (Number.beq_zero_iff.mpr zero)
  nonzero nonzero := by
    rw [shrink, if_neg (mt Number.beq_zero_iff.mp nonzero)]
    exact computes_lengthOf_bind moderate fun length => computes_ofLength (length / divisor)

theorem divides_ratio {left right : Duration} (moderate : left.Moderate)
    (rightModerate : right.Moderate) :
    Divides .duration (.duration right) (ratio left right) where
  zero zero := by
    unfold ratio
    exact if_pos zero
  nonzero nonzero := by
    have long : right.totalMilliseconds ≠ 0 := nonzero
    unfold ratio
    rw [if_neg long]
    exact computes_lengthOf_bind moderate fun dividend =>
      computes_lengthOf_bind rightModerate fun divisor => computes_ofLength (dividend / divisor)

inductive OutcomeClass where
  | unknownOperator | typeMismatch | divisionByZero | computed
  deriving DecidableEq

/-- The classes of outcomes, each with the conditions under which it is the right one. -/
inductive Classified (symbol : String) (left right : Value) :
    OutcomeClass → Except Failure Value → Prop
  | unknownOperator : symbol ∉ ["+", "-", "*", "/"] →
      Classified symbol left right .unknownOperator (.error (.unknownOperator symbol))
  | typeMismatch {operator : Operator} : symbol = operator.symbol →
      resultKind? operator left.kind right.kind = none →
      Classified symbol left right .typeMismatch (.error (.mismatchedOperands operator left right))
  | divisionByZero : symbol = "/" →
      (resultKind? .divide left.kind right.kind).isSome = true → right.IsZero →
      Classified symbol left right .divisionByZero (.error .divisionByZero)
  | computed {operator : Operator} {kind : Kind} {outcome : Except Failure Value} :
      symbol = operator.symbol → resultKind? operator left.kind right.kind = some kind →
      ¬(operator = .divide ∧ right.IsZero) → Computes kind outcome →
      Classified symbol left right .computed outcome

section Classified

variable {symbol : String} {left right : Value} {outcome : Except Failure Value}

theorem Computes.ne_error {kind : Kind} {failure : Failure}
    (computes : Computes kind (.error failure)) : failure.category? = some .outOfRange := by
  rcases computes with ⟨value, same, -⟩ | ⟨other, same, outside⟩
  · contradiction
  · cases same
    exact outside

/-- An outcome is in one class only. -/
theorem Classified.unique {first second : OutcomeClass}
    (classified : Classified symbol left right first outcome)
    (other : Classified symbol left right second outcome) : first = second := by
  cases classified with
  | computed known rule nonzero computes =>
      cases other with
      | computed => rfl
      | unknownOperator | typeMismatch | divisionByZero => cases computes.ne_error
  | unknownOperator | typeMismatch | divisionByZero =>
      cases other with
      | computed known rule nonzero computes => cases computes.ne_error
      | _ => rfl

theorem classified_of_computes {operator : Operator} {kind : Kind}
    (rule : resultKind? operator left.kind right.kind = some kind) (other : operator ≠ .divide)
    (computes : Computes kind outcome) :
    ∃ outcomeClass, Classified operator.symbol left right outcomeClass outcome :=
  ⟨.computed, .computed rfl rule (fun division => other division.1) computes⟩

theorem classified_of_divides {kind : Kind}
    (rule : resultKind? .divide left.kind right.kind = some kind)
    (divides : Divides kind right outcome) :
    ∃ outcomeClass, Classified "/" left right outcomeClass outcome := by
  by_cases zero : right.IsZero
  · have found : (resultKind? .divide left.kind right.kind).isSome = true := by
      rw [rule]
      rfl
    rw [divides.zero zero]
    exact ⟨.divisionByZero, .divisionByZero rfl found zero⟩
  · have symbol : "/" = Operator.divide.symbol := rfl
    exact ⟨.computed, .computed symbol rule (fun division => zero division.2)
      (divides.nonzero zero)⟩

theorem classified_mismatch {operator : Operator} (moderate : left.Moderate)
    (rightModerate : right.Moderate)
    (missing : resultKind? operator left.kind right.kind = none) :
    ∃ outcomeClass, Classified operator.symbol left right outcomeClass
      (.error (refuse [left, right] (.mismatchedOperands operator left right))) := by
  have printable : ∀ value ∈ [left, right], value.Printable := by
    simp only [List.forall_mem_cons, List.not_mem_nil, false_implies, implies_true, and_true]
    exact ⟨moderate.printable, rightModerate.printable⟩
  rw [refuse, if_pos printable]
  exact ⟨.typeMismatch, .typeMismatch rfl missing⟩

theorem classified_operate (operator : Operator) (moderate : left.Moderate)
    (rightModerate : right.Moderate) :
    ∃ outcomeClass, Classified operator.symbol left right outcomeClass
      (operate operator left right) := by
  cases operator <;> cases left <;> cases right <;> simp only [operate]
  case add.number.number | subtract.number.number | multiply.number.number =>
    exact classified_of_computes rfl (by decide) (computes_finite ..)
  case add.dateTime.duration | subtract.dateTime.duration =>
    exact classified_of_computes rfl (by decide) (computes_shift rightModerate ..)
  case add.duration.dateTime =>
    exact classified_of_computes rfl (by decide) (computes_shift moderate ..)
  case add.duration.duration | subtract.duration.duration | subtract.dateTime.dateTime =>
    exact classified_of_computes rfl (by decide) (computes_ok (.duration _))
  case multiply.duration.number =>
    exact classified_of_computes rfl (by decide) (computes_scale moderate _)
  case multiply.number.duration =>
    exact classified_of_computes rfl (by decide) (computes_scale rightModerate _)
  case divide.number.number => exact classified_of_divides rfl (divides_quotient ..)
  case divide.duration.number => exact classified_of_divides rfl (divides_shrink moderate _)
  case divide.duration.duration =>
    exact classified_of_divides rfl (divides_ratio moderate rightModerate)
  all_goals exact classified_mismatch moderate rightModerate rfl

theorem exists_classified (symbol : String) (moderate : left.Moderate)
    (rightModerate : right.Moderate) :
    ∃ outcomeClass, Classified symbol left right outcomeClass (apply symbol left right) := by
  unfold apply
  cases found : Operator.ofSymbol? symbol with
  | none => exact ⟨.unknownOperator, .unknownOperator (Operator.ofSymbol?_eq_none_iff.mp found)⟩
  | some operator =>
      have same : operator.symbol = symbol := by simpa using List.find?_some found
      rw [← same]
      exact classified_operate operator moderate rightModerate

end Classified

/-- Every operation on moderate operands ends in exactly one class of outcomes: an unknown symbol,
kinds that the operator has no rule for, a division by zero, or else a value of the kind of the rule
or a result out of range. Sums and differences of durations and differences of moments are always
values. -/
theorem apply_classified (symbol : String) {left right : Value} (moderate : left.Moderate)
    (rightModerate : right.Moderate) :
    (∃! outcomeClass, Classified symbol left right outcomeClass (apply symbol left right)) ∧
    (∀ first second : Duration,
      (∃ span, apply "+" (.duration first) (.duration second) = .ok (.duration span)) ∧
      ∃ span, apply "-" (.duration first) (.duration second) = .ok (.duration span)) ∧
    ∀ later earlier : DateTime,
      ∃ span, apply "-" (.dateTime later) (.dateTime earlier) = .ok (.duration span) := by
  obtain ⟨outcomeClass, classified⟩ := exists_classified symbol moderate rightModerate
  refine ⟨⟨outcomeClass, classified, fun other also => also.unique classified⟩, ?_, ?_⟩
  · intro first second
    exact ⟨⟨first.add second, rfl⟩, ⟨first.sub second, rfl⟩⟩
  · intro later earlier
    exact ⟨later.since earlier, rfl⟩

def endlessYears : Duration := .ofAmounts false fun
  | .year => Nat.pow 10 300
  | _ => 0

/-- No double comes near to that many milliseconds, but the divisor is looked at first. -/
theorem apply_classified_endlessYears :
    (Value.duration endlessYears).Moderate ∧ (Value.number (-0)).Moderate ∧
    ¬Number.FitsDouble endlessYears.totalMilliseconds ∧
    apply "/" (.duration endlessYears) (.number (-0)) = .error .divisionByZero ∧
    ∃! outcomeClass, Classified "/" (.duration endlessYears) (.number (-0)) outcomeClass
      (apply "/" (.duration endlessYears) (.number (-0))) := by
  have moderate : (Value.duration endlessYears).Moderate := by
    intro unit
    cases unit <;> decide +kernel
  have number : (Value.number (-0)).Moderate := trivial
  exact ⟨moderate, number, by decide +kernel, rfl, (apply_classified "/" moderate number).1⟩

end Arithmetic

end DateCalculator
