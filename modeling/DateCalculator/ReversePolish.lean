import DateCalculator.Failure

/-!
Infix order to reverse Polish order: operands keep their order and each operator follows its
operands. Operators of higher rank bind tighter, those of equal rank from the left. Unmatched
parentheses are accepted on both sides, and nothing else about the expression is checked. The order
is written to the log, so its text has to exist.
-/

namespace DateCalculator.ReversePolish

def rank? : String → Option Nat
  | "+" => some 1
  | "-" => some 1
  | "*" => some 2
  | "/" => some 2
  | "u-" => some 3
  | _ => none

/-- The rank of a token that waits for its operands. Only ranked operators ever wait. -/
def waitingRank : Token → Nat
  | .operator symbol => (rank? symbol).getD 0
  | _ => 3

/-- Splits the waiting operators that bind at least as tightly as `rank` from the top of the stack,
down to the nearest parenthesis. -/
def release (rank : Nat) : List Token → List Token × List Token
  | [] => ([], [])
  | .leftParenthesis :: stack => ([], .leftParenthesis :: stack)
  | top :: stack =>
      if rank ≤ waitingRank top then
        let (released, stack) := release rank stack
        (top :: released, stack)
      else ([], top :: stack)

/-- Splits the stack at the nearest parenthesis, which belongs to neither part. -/
def close : List Token → List Token × List Token
  | [] => ([], [])
  | .leftParenthesis :: stack => ([], stack)
  | top :: stack =>
      let (released, stack) := close stack
      (top :: released, stack)

def isParenthesis : Token → Bool
  | .leftParenthesis => true
  | .rightParenthesis => true
  | _ => false

def reorder : List Token → List Token → Except Failure (List Token)
  | [], stack => .ok (stack.filter fun token => !isParenthesis token)
  | .leftParenthesis :: tokens, stack => reorder tokens (.leftParenthesis :: stack)
  | .rightParenthesis :: tokens, stack =>
      (reorder tokens (close stack).2).map ((close stack).1 ++ ·)
  | .unaryMinus :: tokens, stack => reorder tokens (.unaryMinus :: stack)
  | .operator symbol :: tokens, stack =>
      match rank? symbol with
      | none => .error (.unrankedOperator symbol)
      | some rank =>
          let (released, stack) := release rank stack
          (reorder tokens (.operator symbol :: stack)).map (released ++ ·)
  | operand :: tokens, stack => (reorder tokens stack).map (operand :: ·)

def ofInfix (tokens : List Token) : Except Failure (List Token) :=
  (reorder tokens []).bind fun ordered =>
    if Token.Writable ordered then .ok ordered else .error .numeralTooLong

end DateCalculator.ReversePolish
