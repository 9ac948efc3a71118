import DateCalculator.Token

/-!
Everything that can keep an expression from having a value, by its cause, and what is said about it.
-/

namespace DateCalculator

inductive LexicalFault where
  | character
  | number
  | numberTooLarge
  | date
  | duration
  deriving DecidableEq

inductive Failure where
  | lexical (fault : LexicalFault) (lexeme : String) (position : Nat)
  | unjoinedOperands (left right : Token)
  | minusWithoutOperand
  | missingOperands (symbol : String)
  | nothingToEvaluate
  | unjoinedValues (count : Nat)
  | unknownOperator (symbol : String)
  | mismatchedOperands (operator : Operator) (left right : Value)
  | mismatchedOperand (operand : Value)
  | divisionByZero
  | notFinite (left right : Float)
  | durationTooLong (span : Duration)
  | millisecondsOutOfRange (amount : Float)
  | outsideCalendar (moment : DateTime) (forward : Bool) (span : Duration)
  /-- An amount that has to be carried is beyond every double. -/
  | offsetTooLarge
  /-- A text would need a numeral beyond the length limit. -/
  | numeralTooLong
  | unrankedOperator (symbol : String)
  deriving DecidableEq

namespace LexicalFault

def label : LexicalFault → String
  | character => "Invalid character"
  | number => "Invalid number"
  | numberTooLarge => "Invalid number"
  | date => "Invalid date"
  | duration => "Invalid duration"

def hint? : LexicalFault → Option String
  | character => none
  | number => none
  | numberTooLarge => some "Numbers must fit in a double"
  | date => some "Dates are YYYY-MM-DD[THH[:MM[:SS]]], e.g. 2024-02-29T13:30"
  | duration => some "Durations are ISO-8601, e.g. P1D, PT2H30M or P1Y2M3DT4H"

def message (fault : LexicalFault) (lexeme : String) (position : Nat) : String :=
  let place := if fault = character then s!" at position {position}" else ""
  let hint := match fault.hint? with
    | some hint => "\nHint: " ++ hint
    | none => ""
  s!"{fault.label}: {lexeme}{place}{hint}"

end LexicalFault

namespace Failure

def invalidExpression (detail : String) : String := "Invalid expression: " ++ detail

def mismatch (operator : Operator) (left right : Value) : String :=
  match operator with
  | .add => s!"Cannot add {left.described} and {right.described}"
  | .subtract => s!"Cannot subtract {left.described} and {right.described}"
  | .multiply => s!"Cannot multiply {left.described} and {right.described}"
  | .divide => s!"Cannot divide {left.described} by {right.described}"

def message? : Failure → Option String
  | lexical fault lexeme position => some (fault.message lexeme position)
  | unjoinedOperands left right =>
      some (invalidExpression s!"{left.text} and {right.text} are not joined by an operator")
  | minusWithoutOperand => some (invalidExpression "unary minus without an operand")
  | missingOperands symbol => some (invalidExpression s!"operator {symbol} needs two operands")
  | nothingToEvaluate => some (invalidExpression "nothing to evaluate")
  | unjoinedValues count => some (invalidExpression s!"{count} values are not joined by operators")
  | unknownOperator symbol => some s!"Unknown operator: {symbol}"
  | mismatchedOperands operator left right => some (mismatch operator left right)
  | mismatchedOperand operand => some s!"Cannot apply unary minus to {operand.described}"
  | divisionByZero => some "Division by zero"
  | notFinite left right =>
      some s!"Result of {Number.text left} and {Number.text right} is not a finite number"
  | durationTooLong span => some s!"Duration {span.text} is too long for arithmetic"
  | millisecondsOutOfRange amount =>
      some s!"Duration of {Number.text amount} milliseconds is out of range"
  | outsideCalendar moment forward span =>
      let sign := if forward then "+" else "-"
      some <| s!"{moment.text} {sign} {span.text} " ++
        "falls outside the supported date range (years 1-9999)"
  | offsetTooLarge => none
  | numeralTooLong => none
  | unrankedOperator _ => none

end Failure

end DateCalculator
