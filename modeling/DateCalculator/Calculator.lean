import DateCalculator.Evaluation
import DateCalculator.ReversePolish
import DateCalculator.Token.Scan

/-!
The calculator: an expression over numbers, moments, durations and `now` is split into tokens, put
into reverse Polish order and evaluated.
-/

namespace DateCalculator.Calculator

/-- The outcome of the tokens of an expression. The clock is read in their evaluation only. -/
def calculateTokens (clock : Clock) (reads : Nat) (tokens : List Token) : Outcome :=
  match ReversePolish.ofInfix tokens with
  | .error failure => ⟨.error failure, reads⟩
  | .ok ordered => Evaluation.evaluate clock reads ordered

theorem calculateTokens_of_ofInfix {tokens ordered : List Token}
    (converted : ReversePolish.ofInfix tokens = .ok ordered) (clock : Clock) (reads : Nat) :
    calculateTokens clock reads tokens = Evaluation.evaluate clock reads ordered := by
  rw [calculateTokens, converted]

def calculate (clock : Clock) (reads : Nat) (expression : String) : Outcome :=
  match Token.tokenize expression with
  | .error failure => ⟨.error failure, reads⟩
  | .ok tokens => calculateTokens clock reads tokens

theorem calculate_of_tokenize {expression : String} {tokens : List Token}
    (scanned : Token.tokenize expression = .ok tokens) (clock : Clock) (reads : Nat) :
    calculate clock reads expression = calculateTokens clock reads tokens := by
  rw [calculate, scanned]

def calculateAll (clock : Clock) : Nat → List String → List Outcome
  | _, [] => []
  | reads, expression :: expressions =>
      let outcome := calculate clock reads expression
      outcome :: calculateAll clock outcome.reads expressions

end DateCalculator.Calculator
