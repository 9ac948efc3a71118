import DateCalculator.Duration.Offset
import DateCalculator.Failure
import DateCalculator.Number.Whole

/-!
What the operators do. Each operator has a rule for some pairs of kinds and none for the others;
no value is ever taken for one of another kind. `resultKind?` is the table of the rules.
-/

namespace DateCalculator.Arithmetic

def resultKind? : Operator → Kind → Kind → Option Kind
  | _, .number, .number => some .number
  | .add, .dateTime, .duration => some .dateTime
  | .add, .duration, .dateTime => some .dateTime
  | .add, .duration, .duration => some .duration
  | .subtract, .dateTime, .duration => some .dateTime
  | .subtract, .dateTime, .dateTime => some .duration
  | .subtract, .duration, .duration => some .duration
  | .multiply, .duration, .number => some .duration
  | .multiply, .number, .duration => some .duration
  | .divide, .duration, .duration => some .duration
  | .divide, .duration, .number => some .duration
  | _, _, _ => none

def rules : List (Operator × Kind × Kind) :=
  Operator.all.flatMap fun operator =>
    Kind.all.flatMap fun left =>
      (Kind.all.filter fun right => (resultKind? operator left right).isSome).map fun right =>
        (operator, left, right)

/-- The failure itself, unless its message would need a numeral beyond the length limit. -/
def refuse (values : List Value) (failure : Failure) : Failure :=
  if ∀ value ∈ values, value.Printable then failure else .numeralTooLong

def finite (left right result : Float) : Except Failure Value :=
  if result.isFinite then .ok (.number result) else .error (.notFinite left right)

def quotient (left right : Float) : Except Failure Value :=
  if right == 0 then .error .divisionByZero else finite left right (left / right)

def shift (moment : DateTime) (forward : Bool) (span : Duration) : Except Failure Value :=
  match Offset.ofDuration? span with
  | none => .error .offsetTooLarge
  | some offset =>
      match moment.shift? (if forward then offset else offset.negate) with
      | some shifted => .ok (.dateTime shifted)
      | none => .error (refuse [.duration span] (.outsideCalendar moment forward span))

def lengthOf (span : Duration) : Except Failure Float :=
  match Number.ofInt? span.totalMilliseconds with
  | some length => .ok length
  | none => .error (refuse [.duration span] (.durationTooLong span))

def ofLength (milliseconds : Float) : Except Failure Value :=
  match Number.nearest? milliseconds with
  | some total => .ok (.duration (.ofMilliseconds total .millisecond))
  | none => .error (.millisecondsOutOfRange milliseconds)

def scale (span : Duration) (factor : Float) : Except Failure Value := do
  let length ← lengthOf span
  ofLength (length * factor)

def shrink (span : Duration) (divisor : Float) : Except Failure Value :=
  if divisor == 0 then .error .divisionByZero
  else do
    let length ← lengthOf span
    ofLength (length / divisor)

def ratio (left right : Duration) : Except Failure Value :=
  if right.totalMilliseconds = 0 then .error .divisionByZero
  else do
    let dividend ← lengthOf left
    let divisor ← lengthOf right
    ofLength (dividend / divisor)

def operate : Operator → Value → Value → Except Failure Value
  | .add, .number left, .number right => finite left right (left + right)
  | .add, .dateTime moment, .duration span => shift moment true span
  | .add, .duration span, .dateTime moment => shift moment true span
  | .add, .duration left, .duration right => .ok (.duration (left.add right))
  | .subtract, .number left, .number right => finite left right (left - right)
  | .subtract, .dateTime moment, .duration span => shift moment false span
  | .subtract, .dateTime later, .dateTime earlier => .ok (.duration (later.since earlier))
  | .subtract, .duration left, .duration right => .ok (.duration (left.sub right))
  | .multiply, .number left, .number right => finite left right (left * right)
  | .multiply, .duration span, .number factor => scale span factor
  | .multiply, .number factor, .duration span => scale span factor
  | .divide, .number left, .number right => quotient left right
  | .divide, .duration left, .duration right => ratio left right
  | .divide, .duration span, .number divisor => shrink span divisor
  | operator, left, right => .error (refuse [left, right] (.mismatchedOperands operator left right))

def apply (symbol : String) (left right : Value) : Except Failure Value :=
  match Operator.ofSymbol? symbol with
  | some operator => operate operator left right
  | none => .error (.unknownOperator symbol)

def negate : Value → Except Failure Value
  | .number number => .ok (.number (-number))
  | .duration span => .ok (.duration span.negate)
  | .dateTime moment => .error (.mismatchedOperand (.dateTime moment))

end DateCalculator.Arithmetic
