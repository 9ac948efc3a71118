import DateCalculator.Arithmetic

/-!
Evaluation in reverse Polish order over a stack. Every `now` reads the clock anew when it is
reached, so an outcome tells how often the clock has been read, also when it is a failure.
-/

namespace DateCalculator

abbrev Clock := Nat → DateTime

structure Outcome where
  result : Except Failure Value
  reads : Nat

namespace Evaluation

/-- What a token other than `now` does to the stack, whose top comes first. -/
def step : Token → List Value → Except Failure (List Value)
  | .literal value, stack => .ok (value :: stack)
  | .unaryMinus, operand :: stack => (Arithmetic.negate operand).map (· :: stack)
  | .unaryMinus, [] => .error .minusWithoutOperand
  | .operator symbol, right :: left :: stack =>
      (Arithmetic.apply symbol left right).map (· :: stack)
  | .operator symbol, _ => .error (.missingOperands symbol)
  | token, _ => .error (.unknownOperator token.text)

/-- The one value that has to be left in the end; its text has to exist. -/
def result : List Value → Except Failure Value
  | [] => .error .nothingToEvaluate
  | [value] => if value.Printable then .ok value else .error .numeralTooLong
  | stack => .error (.unjoinedValues stack.length)

def reduce (clock : Clock) : List Token → List Value → Nat → Outcome
  | [], stack, reads => ⟨result stack, reads⟩
  | .now :: tokens, stack, reads =>
      reduce clock tokens (.dateTime (clock reads) :: stack) (reads + 1)
  | token :: tokens, stack, reads =>
      match step token stack with
      | .ok stack => reduce clock tokens stack reads
      | .error failure => ⟨.error failure, reads⟩

def evaluate (clock : Clock) (reads : Nat) (tokens : List Token) : Outcome :=
  reduce clock tokens [] reads

end Evaluation

end DateCalculator
