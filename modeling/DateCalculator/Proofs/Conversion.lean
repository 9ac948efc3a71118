import DateCalculator.Proofs.Conservation
import DateCalculator.Proofs.InfixGrammar

/-!
Infix order to reverse Polish order on well-formed expressions. While an expression is read, the
stack grows by its pending operators and nothing below them is touched, provided that no operator
there binds as tightly as the expression does.
-/

namespace DateCalculator

namespace ReversePolish

theorem map_map_append (result : Except Failure (List Token)) (first second : List Token) :
    (result.map (second ++ ·)).map (first ++ ·) = result.map (first ++ second ++ ·) := by
  cases result <;> simp [Except.map]

/-- Nothing on the stack, down to the nearest parenthesis, binds as tightly as `rank`. -/
def Settled (rank : Nat) (stack : List Token) : Prop := release rank stack = ([], stack)

theorem settled_nil (rank : Nat) : Settled rank [] := rfl

theorem settled_leftParenthesis (rank : Nat) (stack : List Token) :
    Settled rank (.leftParenthesis :: stack) := rfl

theorem release_cons {token : Token} (opened : token ≠ .leftParenthesis) (rank : Nat)
    (stack : List Token) :
    release rank (token :: stack) =
      if rank ≤ waitingRank token then (token :: (release rank stack).1, (release rank stack).2)
      else ([], token :: stack) := by
  cases token <;> first | rfl | contradiction

theorem close_cons {token : Token} (opened : token ≠ .leftParenthesis) (stack : List Token) :
    close (token :: stack) = (token :: (close stack).1, (close stack).2) := by
  cases token <;> first | rfl | contradiction

theorem settled_of_lt {token : Token} {rank : Nat} (looser : waitingRank token < rank)
    (stack : List Token) : Settled rank (token :: stack) := by
  by_cases opened : token = .leftParenthesis
  · rw [opened]
    exact settled_leftParenthesis rank stack
  · unfold Settled
    rw [release_cons opened, if_neg (Nat.not_le.mpr looser)]

theorem Settled.mono {low high : Nat} {stack : List Token} (settled : Settled low stack)
    (ordered : low ≤ high) : Settled high stack := by
  cases stack with
  | nil => exact settled_nil high
  | cons top stack =>
      by_cases opened : top = .leftParenthesis
      · rw [opened]
        exact settled_leftParenthesis high stack
      · unfold Settled at settled
        rw [release_cons opened] at settled
        split at settled
        · simp at settled
        · exact settled_of_lt (by omega) stack

def Tight (rank : Nat) (waiting : List Token) : Prop :=
  ∀ token ∈ waiting, isParenthesis token = false ∧ rank ≤ waitingRank token

theorem Tight.tail {rank : Nat} {token : Token} {waiting : List Token}
    (tight : Tight rank (token :: waiting)) : Tight rank waiting :=
  fun other member => tight other (List.mem_cons_of_mem token member)

theorem Tight.opened {rank : Nat} {token : Token} {waiting : List Token}
    (tight : Tight rank (token :: waiting)) : token ≠ .leftParenthesis := by
  rintro rfl
  have first := (tight .leftParenthesis List.mem_cons_self).1
  contradiction

theorem Tight.mono {low high : Nat} {waiting : List Token} (tight : Tight high waiting)
    (ordered : low ≤ high) : Tight low waiting :=
  fun token member => ⟨(tight token member).1, Nat.le_trans ordered (tight token member).2⟩

theorem Tight.append {rank : Nat} {waiting : List Token} {token : Token}
    (tight : Tight rank waiting) (operator : isParenthesis token = false)
    (binds : rank ≤ waitingRank token) : Tight rank (waiting ++ [token]) := by
  intro other member
  rcases List.mem_append.mp member with earlier | last
  · exact tight other earlier
  · rw [List.mem_singleton.mp last]
    exact ⟨operator, binds⟩

theorem release_append {rank : Nat} {waiting stack : List Token} (tight : Tight rank waiting)
    (settled : Settled rank stack) : release rank (waiting ++ stack) = (waiting, stack) := by
  induction waiting with
  | nil => exact settled
  | cons token waiting ih =>
      have binds := (tight token List.mem_cons_self).2
      rw [List.cons_append, release_cons tight.opened, if_pos binds, ih tight.tail]

theorem close_append {rank : Nat} {waiting : List Token} (tight : Tight rank waiting)
    (stack : List Token) : close (waiting ++ .leftParenthesis :: stack) = (waiting, stack) := by
  induction waiting with
  | nil => rfl
  | cons token waiting ih => rw [List.cons_append, close_cons tight.opened, ih tight.tail]

theorem filter_of_tight {rank : Nat} {waiting : List Token} (tight : Tight rank waiting) :
    waiting.filter (fun token => !isParenthesis token) = waiting := by
  apply List.filter_eq_self.mpr
  intro token member
  simp [(tight token member).1]

theorem rank?_additive {operator : Operator}
    (additive : operator = .add ∨ operator = .subtract) : rank? operator.symbol = some 1 := by
  rcases additive with rfl | rfl <;> rfl

theorem rank?_multiplicative {operator : Operator}
    (multiplicative : operator = .multiply ∨ operator = .divide) :
    rank? operator.symbol = some 2 := by
  rcases multiplicative with rfl | rfl <;> rfl

theorem waitingRank_ofOperator {operator : Operator} {rank : Nat}
    (ranked : rank? operator.symbol = some rank) :
    waitingRank (.ofOperator operator) = rank := by
  simp only [waitingRank, Token.ofOperator, ranked, Option.getD_some]

theorem reorder_operator {operator : Operator} {rank : Nat} {waiting stack : List Token}
    (ranked : rank? operator.symbol = some rank) (tight : Tight rank waiting)
    (settled : Settled rank stack) (tokens : List Token) :
    reorder (.ofOperator operator :: tokens) (waiting ++ stack) =
      (reorder tokens (.ofOperator operator :: stack)).map (waiting ++ ·) := by
  simp only [Token.ofOperator, reorder, ranked, release_append tight settled]

end ReversePolish

def Level.rank : Level → Nat
  | .sum => 1
  | .term => 2
  | .factor => 3
  | .atom => 3

/-- What the stack has to be like where an expression begins. A factor takes nothing from the stack,
so that any stack will do. -/
def Level.Ready : Level → List Token → Prop
  | .sum, stack => ReversePolish.Settled 1 stack
  | .term, stack => ReversePolish.Settled 2 stack
  | _, _ => True

namespace Infix

open ReversePolish

variable {level : Level}

theorem pending_tight (expression : Infix level) : Tight level.rank expression.pending := by
  induction expression with
  | sum operator additive left right ihLeft ihRight =>
      refine (ihRight.mono (show 1 ≤ 2 by decide)).append rfl ?_
      exact Nat.le_of_eq (waitingRank_ofOperator (rank?_additive additive)).symm
  | product operator multiplicative left right ihLeft ihRight =>
      refine (ihRight.mono (show 2 ≤ 3 by decide)).append rfl ?_
      exact Nat.le_of_eq (waitingRank_ofOperator (rank?_multiplicative multiplicative)).symm
  | ofTerm inner ih => exact ih.mono (show 1 ≤ 2 by decide)
  | ofFactor inner ih => exact ih.mono (show 2 ≤ 3 by decide)
  | negation operand ih => exact ih.append rfl (Nat.le_refl 3)
  | ofAtom inner ih => exact ih
  | literal value => exact fun token member => absurd member List.not_mem_nil
  | now => exact fun token member => absurd member List.not_mem_nil
  | parenthesized inner ih => exact fun token member => absurd member List.not_mem_nil

/-- The tokens of an expression are read over a stack: its released tokens come out and its pending
operators stay above the stack, whatever comes next. -/
def ReadsOver (expression : Infix level) (stack : List Token) : Prop :=
  ∀ rest, reorder (expression.tokens ++ rest) stack =
    (reorder rest (expression.pending ++ stack)).map (expression.released ++ ·)

theorem reorder_binary {leftLevel rightLevel : Level} {left : Infix leftLevel}
    {right : Infix rightLevel} {operator : Operator} {rank : Nat} {stack : List Token}
    (ranked : rank? operator.symbol = some rank) (tight : Tight rank left.pending)
    (settled : Settled rank stack) (leftRead : left.ReadsOver stack)
    (rightRead : right.ReadsOver (.ofOperator operator :: stack)) (rest : List Token) :
    reorder (left.tokens ++ .ofOperator operator :: right.tokens ++ rest) stack =
      (reorder rest (right.pending ++ [.ofOperator operator] ++ stack)).map
        (left.released ++ left.pending ++ right.released ++ ·) := by
  rw [List.append_assoc, List.cons_append, leftRead, reorder_operator ranked tight settled,
    rightRead, map_map_append, map_map_append]
  simp only [List.append_assoc, List.cons_append, List.nil_append]

theorem readsOver (expression : Infix level) {stack : List Token} (ready : level.Ready stack) :
    expression.ReadsOver stack := by
  induction expression generalizing stack with
  | sum operator additive left right ihLeft ihRight =>
      have ranked := rank?_additive additive
      have readyRight : Level.term.Ready (.ofOperator operator :: stack) :=
        settled_of_lt (by rw [waitingRank_ofOperator ranked]; decide) stack
      exact reorder_binary ranked left.pending_tight ready (ihLeft ready) (ihRight readyRight)
  | product operator multiplicative left right ihLeft ihRight =>
      have ranked := rank?_multiplicative multiplicative
      exact reorder_binary ranked left.pending_tight ready (ihLeft ready) (ihRight trivial)
  | ofTerm inner ih => exact ih (Settled.mono ready (show 1 ≤ 2 by decide))
  | ofFactor inner ih => exact ih trivial
  | negation operand ih =>
      intro rest
      rw [tokens, List.cons_append, reorder, ih trivial]
      simp only [pending, released, List.append_assoc, List.cons_append, List.nil_append]
  | ofAtom inner ih => exact ih trivial
  | literal value => exact fun rest => rfl
  | now => exact fun rest => rfl
  | parenthesized inner ih =>
      intro rest
      rw [tokens, List.cons_append, List.cons_append, List.append_assoc, reorder,
        ih (settled_leftParenthesis 1 stack), List.cons_append, reorder,
        close_append inner.pending_tight, map_map_append]
      rfl

/-- Operators of equal rank associate to the left, multiplications and divisions bind tighter than
sums, and a unary minus binds tightest. -/
theorem reorder_tokens (expression : Infix .sum) :
    reorder expression.tokens [] = .ok expression.tree.postorder := by
  have read := expression.readsOver (settled_nil 1) []
  rw [List.append_nil, List.append_nil, reorder, filter_of_tight expression.pending_tight] at read
  rw [read, ← expression.released_append_pending]
  rfl

end Infix

namespace ReversePolish

/-- The tokens of an expression are put into the post-order of its operator tree exactly if that can
be written out; otherwise the conversion fails. -/
theorem ofInfix_tokens (expression : Infix .sum) :
    (ofInfix expression.tokens = .ok expression.tree.postorder ↔
      Token.Writable expression.tokens) ∧
    (¬Token.Writable expression.tokens →
      ofInfix expression.tokens = .error .numeralTooLong) := by
  rw [ofInfix_of_reorder expression.reorder_tokens]
  by_cases writable : Token.Writable expression.tokens
  · simp [writable]
  · simp [writable]

/-- The expression is a single duration. -/
def overlongLiteral : Infix .sum :=
  .ofTerm (.ofFactor (.ofAtom (.literal (.duration overlongSeconds))))

theorem ofInfix_tokens_overlongLiteral :
    ¬Token.Writable overlongLiteral.tokens ∧
      ofInfix overlongLiteral.tokens = .error .numeralTooLong := by
  have unwritable : ¬Token.Writable overlongLiteral.tokens :=
    not_writable_of_overlongSeconds List.mem_cons_self
  exact ⟨unwritable, (ofInfix_tokens overlongLiteral).2 unwritable⟩

theorem not_ofInfix_tokens_eq_postorder :
    ¬∀ expression : Infix .sum,
      ofInfix expression.tokens = .ok expression.tree.postorder := by
  intro ordered
  exact not_writable_of_overlongSeconds List.mem_cons_self
    (ofInfix_eq_ok_iff.mp (ordered overlongLiteral)).2

end ReversePolish

end DateCalculator
