import DateCalculator.Operator
import DateCalculator.Value

/-!
Tokens of an expression. An operator token holds its symbol, which need not be one of the four that
the calculator knows: such a token is refused where its symbol is looked up.
-/

namespace DateCalculator

inductive Token where
  | literal (value : Value)
  | now
  | operator (symbol : String)
  | unaryMinus
  | leftParenthesis
  | rightParenthesis
  deriving DecidableEq

namespace Token

def isOperand : Token → Bool
  | literal _ => true
  | now => true
  | _ => false

/-- Whether a minus after this token has nothing on its left to be subtracted from. -/
def opensOperand : Token → Bool
  | operator _ => true
  | unaryMinus => true
  | leftParenthesis => true
  | _ => false

def text : Token → String
  | literal value => value.text
  | now => "now"
  | operator symbol => symbol
  | unaryMinus => "u-"
  | leftParenthesis => "("
  | rightParenthesis => ")"

/-- Whether the text of a token exists. -/
def Printable : Token → Prop
  | literal value => value.Printable
  | _ => True

instance : (token : Token) → Decidable token.Printable
  | literal value => inferInstanceAs (Decidable value.Printable)
  | now | operator _ | unaryMinus | leftParenthesis | rightParenthesis => .isTrue trivial

/-- Whether the texts of all these tokens exist. -/
def Writable (tokens : List Token) : Prop := ∀ token ∈ tokens, token.Printable

instance (tokens : List Token) : Decidable (Writable tokens) :=
  inferInstanceAs (Decidable (∀ token ∈ tokens, token.Printable))

def ofOperator (operator : Operator) : Token := .operator operator.symbol

def texts (tokens : List Token) : String := " ".intercalate (tokens.map text)

end Token

end DateCalculator
