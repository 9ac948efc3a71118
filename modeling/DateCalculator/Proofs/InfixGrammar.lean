import DateCalculator.Proofs.OperatorTree
import DateCalculator.ReversePolish

/-!
The infix grammar. Sums are made of terms, terms of factors and factors of atoms, so the shape of an
expression shows how tightly its operators bind. Reordering the tokens of an expression gives the
post-order of its operator tree.
-/

namespace DateCalculator

inductive Level where
  | sum | term | factor | atom

inductive Infix : Level → Type where
  | sum (operator : Operator) (additive : operator = .add ∨ operator = .subtract)
      (left : Infix .sum) (right : Infix .term) : Infix .sum
  | ofTerm (inner : Infix .term) : Infix .sum
  | product (operator : Operator) (multiplicative : operator = .multiply ∨ operator = .divide)
      (left : Infix .term) (right : Infix .factor) : Infix .term
  | ofFactor (inner : Infix .factor) : Infix .term
  | negation (operand : Infix .factor) : Infix .factor
  | ofAtom (inner : Infix .atom) : Infix .factor
  | literal (value : Value) : Infix .atom
  | now : Infix .atom
  | parenthesized (inner : Infix .sum) : Infix .atom

namespace Infix

variable {level : Level}

def tokens {level : Level} : Infix level → List Token
  | sum operator _ left right => left.tokens ++ .ofOperator operator :: right.tokens
  | ofTerm inner => inner.tokens
  | product operator _ left right => left.tokens ++ .ofOperator operator :: right.tokens
  | ofFactor inner => inner.tokens
  | negation operand => .unaryMinus :: operand.tokens
  | ofAtom inner => inner.tokens
  | literal value => [.literal value]
  | now => [.now]
  | parenthesized inner => .leftParenthesis :: inner.tokens ++ [.rightParenthesis]

def tree {level : Level} : Infix level → OperatorTree
  | sum operator _ left right => .binary operator.symbol left.tree right.tree
  | ofTerm inner => inner.tree
  | product operator _ left right => .binary operator.symbol left.tree right.tree
  | ofFactor inner => inner.tree
  | negation operand => .negation operand.tree
  | ofAtom inner => inner.tree
  | literal value => .literal value
  | now => .now
  | parenthesized inner => inner.tree

/-- The operators that still wait when all tokens of an expression have been read. -/
def pending {level : Level} : Infix level → List Token
  | sum operator _ _ right => right.pending ++ [.ofOperator operator]
  | ofTerm inner => inner.pending
  | product operator _ _ right => right.pending ++ [.ofOperator operator]
  | ofFactor inner => inner.pending
  | negation operand => operand.pending ++ [.unaryMinus]
  | ofAtom inner => inner.pending
  | literal _ => []
  | now => []
  | parenthesized _ => []

def released {level : Level} : Infix level → List Token
  | sum _ _ left right => left.released ++ left.pending ++ right.released
  | ofTerm inner => inner.released
  | product _ _ left right => left.released ++ left.pending ++ right.released
  | ofFactor inner => inner.released
  | negation operand => operand.released
  | ofAtom inner => inner.released
  | literal value => [.literal value]
  | now => [.now]
  | parenthesized inner => inner.released ++ inner.pending

theorem released_append_pending (expression : Infix level) :
    expression.released ++ expression.pending = expression.tree.postorder := by
  induction expression with
  | sum operator _ left right ihLeft ihRight | product operator _ left right ihLeft ihRight =>
      simp only [released, pending, tree, OperatorTree.postorder, ihLeft, List.append_assoc]
      rw [← List.append_assoc right.released, ihRight]
      rfl
  | negation operand ih =>
      simp only [released, pending, tree, OperatorTree.postorder, ← List.append_assoc, ih]
  | ofTerm inner ih => exact ih
  | ofFactor inner ih => exact ih
  | ofAtom inner ih => exact ih
  | literal value => rfl
  | now => rfl
  | parenthesized inner ih => simpa [released, pending, tree] using ih

end Infix

end DateCalculator
