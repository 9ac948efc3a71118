import DateCalculator.DateTime.Printer
import DateCalculator.Duration.Printer
import DateCalculator.Number.Layout

/-!
Values of the calculator: numbers, moments and durations. The text of a value can be read back by
eye and, but for its rounding, by the calculator itself.
-/

namespace DateCalculator

inductive Kind where
  | number | dateTime | duration
  deriving DecidableEq

def Kind.all : List Kind := [.number, .dateTime, .duration]

def Kind.name : Kind → String
  | .number => "Number"
  | .dateTime => "DateTime"
  | .duration => "Duration"

inductive Value where
  | number (number : Float)
  | dateTime (moment : DateTime)
  | duration (span : Duration)
  deriving DecidableEq

namespace Value

def kind : Value → Kind
  | number _ => .number
  | dateTime _ => .dateTime
  | duration _ => .duration

def text : Value → String
  | number value => Number.text value
  | dateTime moment => moment.text
  | duration span => span.text

/-- Only a duration can hold numerals beyond the length limit. -/
def Printable : Value → Prop
  | duration span => span.Printable
  | _ => True

instance : (value : Value) → Decidable value.Printable
  | number _ => .isTrue trivial
  | dateTime _ => .isTrue trivial
  | duration span => inferInstanceAs (Decidable span.Printable)

def canonical? (value : Value) : Option String :=
  if value.Printable then some value.text else none

def described (value : Value) : String := s!"{value.kind.name} ({value.text})"

end Value

end DateCalculator
