import DateCalculator.Text.Quoted

/-!
The four binary operators and their symbols.
-/

namespace DateCalculator

inductive Operator where
  | add | subtract | multiply | divide
  deriving DecidableEq

namespace Operator

def all : List Operator := [add, subtract, multiply, divide]

def symbol : Operator → String
  | add => "+"
  | subtract => "-"
  | multiply => "*"
  | divide => "/"

def ofSymbol? (symbol : String) : Option Operator :=
  all.find? fun operator => operator.symbol = symbol

@[simp] theorem ofSymbol?_symbol (operator : Operator) :
    ofSymbol? operator.symbol = some operator := by
  cases operator <;> decide

def unknownSymbolMessage (symbol : String) : String :=
  s!"Unknown binary operator {Text.quoted symbol}. Valid operators: + - * /"

end Operator

end DateCalculator
