import DateCalculator.Proofs.Conservation

/-!
What comes out of the conversion to reverse Polish order. Only operators ever leave the stack, so
the operands come out in the order in which they went in, the operators in some order, and the
parentheses not at all.
-/

namespace DateCalculator

namespace Token

/-- An operator of one operand or two. -/
def isOperation : Token → Bool
  | operator _ => true
  | unaryMinus => true
  | _ => false

theorem isOperand_eq {token : Token} (unparenthesized : ReversePolish.isParenthesis token = false) :
    token.isOperand = !token.isOperation := by
  cases token <;> first | rfl | contradiction

end Token

namespace ReversePolish

/-- Only operators and opening parentheses wait on a stack. -/
def Waiting (stack : List Token) : Prop :=
  ∀ token ∈ stack, token.isOperation = true ∨ token = .leftParenthesis

variable {stack : List Token}

theorem waiting_nil : Waiting [] := by
  intro token member
  contradiction

theorem Waiting.cons (waiting : Waiting stack) {token : Token}
    (waits : token.isOperation = true ∨ token = .leftParenthesis) : Waiting (token :: stack) := by
  intro other member
  rcases List.mem_cons.mp member with rfl | below
  · exact waits
  · exact waiting other below

theorem Waiting.suffix {part : List Token} (waiting : Waiting stack) (inside : part <:+ stack) :
    Waiting part :=
  fun token member => waiting token (inside.subset member)

theorem Waiting.close (waiting : Waiting stack) :
    ∀ token ∈ (close stack).1, token.isOperation = true := by
  fun_induction ReversePolish.close stack with
  | case1 => simp
  | case2 stack => simp
  | case3 top stack opened closed left split ih =>
      intro token member
      rw [split] at ih
      rcases List.mem_cons.mp member with rfl | below
      · exact (waiting token List.mem_cons_self).resolve_right opened
      · exact ih (waiting.suffix (List.suffix_cons top stack)) token below

theorem Waiting.release (waiting : Waiting stack) (rank : Nat) :
    ∀ token ∈ (release rank stack).1, token.isOperation = true := by
  fun_induction ReversePolish.release rank stack with
  | case1 => simp
  | case2 stack => simp
  | case3 top stack opened binds released left split ih =>
      intro token member
      rw [split] at ih
      rcases List.mem_cons.mp member with rfl | below
      · exact (waiting token List.mem_cons_self).resolve_right opened
      · exact ih (waiting.suffix (List.suffix_cons top stack)) token below
  | case4 => simp

/-- The tokens that are no operators. -/
def withoutOperations (tokens : List Token) : List Token :=
  tokens.filter fun token => !token.isOperation

theorem withoutOperations_append {released : List Token}
    (operations : ∀ token ∈ released, token.isOperation = true) (rest : List Token) :
    withoutOperations (released ++ rest) = withoutOperations rest := by
  have nothing : withoutOperations released = [] := by
    simpa [withoutOperations] using operations
  rw [withoutOperations, List.filter_append]
  exact congrArg (· ++ withoutOperations rest) nothing

/-- Operators apart, the operands come out as they went in. -/
theorem withoutOperations_reorder {tokens ordered : List Token} (waiting : Waiting stack)
    (reordered : reorder tokens stack = .ok ordered) :
    withoutOperations ordered = tokens.filter Token.isOperand := by
  fun_induction reorder tokens stack generalizing ordered with
  | case1 stack =>
      cases reordered
      simp only [withoutOperations, List.filter_nil, List.filter_filter, List.filter_eq_nil_iff]
      intro token member
      rcases waiting token member with operation | rfl
      · simp [operation]
      · simp [isParenthesis]
  | case2 tokens stack ih => exact ih (waiting.cons (.inr rfl)) reordered
  | case3 tokens stack ih =>
      obtain ⟨rest, found, rfl⟩ := map_eq_ok reordered
      rw [withoutOperations_append waiting.close]
      exact ih (waiting.suffix (close_suffix stack)) found
  | case4 tokens stack ih => exact ih (waiting.cons (.inl rfl)) reordered
  | case5 => contradiction
  | case6 symbol tokens stack rank ranked released left split ih =>
      obtain ⟨rest, found, rfl⟩ := map_eq_ok reordered
      have operations := waiting.release rank
      have below := waiting.suffix (release_suffix rank stack)
      rw [split] at operations below
      rw [withoutOperations_append operations]
      exact ih (below.cons (.inl rfl)) found
  | case7 operand tokens stack opened closed negated operated ih =>
      obtain ⟨rest, found, rfl⟩ := map_eq_ok reordered
      have read : operand.isOperand = true ∧ operand.isOperation = false := by
        cases operand with
        | literal | now => exact ⟨rfl, rfl⟩
        | operator symbol => exact absurd rfl (operated symbol)
        | unaryMinus | leftParenthesis | rightParenthesis => contradiction
      rw [withoutOperations, List.filter_cons_of_pos (by simp [read.2]),
        List.filter_cons_of_pos read.1]
      exact congrArg (operand :: ·) (ih waiting found)

/-- What a conversion keeps: it drops the parentheses, leaves the operands in their order and only
permutes the operators. -/
structure Conserves (tokens ordered : List Token) : Prop where
  unparenthesized : ∀ token ∈ ordered, isParenthesis token = false
  operands : ordered.filter Token.isOperand = tokens.filter Token.isOperand
  operations : (ordered.filter Token.isOperation).Perm (tokens.filter Token.isOperation)
  length : ordered.length + tokens.countP isParenthesis = tokens.length

theorem conserves_of_ofInfix {tokens ordered : List Token}
    (converted : ofInfix tokens = .ok ordered) : Conserves tokens ordered := by
  have others := withoutOperations_reorder waiting_nil (ofInfix_eq_ok_iff.mp converted).1
  have permuted := ofInfix_perm converted
  have unparenthesized : ∀ token ∈ ordered, isParenthesis token = false := by
    intro token member
    cases operation : token.isOperation with
    | true => cases token <;> first | rfl | contradiction
    | false =>
        have kept : token ∈ withoutOperations ordered :=
          List.mem_filter.mpr ⟨member, by simp [operation]⟩
        rw [others] at kept
        have operand := (List.mem_filter.mp kept).2
        cases token <;> first | rfl | contradiction
  have whole : withoutParentheses ordered = ordered :=
    List.filter_eq_self.mpr fun token member => by simp [unparenthesized token member]
  rw [whole] at permuted
  constructor
  · exact unparenthesized
  · rw [← others]
    exact List.filter_congr fun token member => Token.isOperand_eq (unparenthesized token member)
  · have other : ∀ token, isParenthesis token = true → token.isOperation = false := by
      intro token parenthesis
      cases token <;> first | rfl | contradiction
    rw [← filter_withoutParentheses other tokens]
    exact permuted.filter _
  · have counted := List.length_eq_countP_add_countP isParenthesis (l := tokens)
    have dropped : (withoutParentheses tokens).length =
        tokens.countP fun token => !isParenthesis token := List.countP_eq_length_filter.symm
    rw [permuted.length_eq, dropped]
    simp only [Bool.not_eq_true, Bool.decide_eq_false] at counted
    omega

theorem ofInfix_subset {tokens ordered : List Token} (reordered : ofInfix tokens = .ok ordered) :
    ordered ⊆ tokens := by
  intro token member
  have kept : token ∈ withoutParentheses ordered := by
    have unparenthesized := (conserves_of_ofInfix reordered).unparenthesized token member
    exact List.mem_filter.mpr ⟨member, by simp [unparenthesized]⟩
  exact (List.mem_filter.mp ((ofInfix_perm reordered).mem_iff.mp kept)).1

/-- Every token list with known operators that can be written out has a reverse Polish order, with or
without matching parentheses, and nothing but the parentheses is lost or added there. Where the
tokens cannot be written out the conversion fails. -/
theorem ofInfix_conserves {tokens : List Token} (known : Token.Known tokens) :
    ((∃ ordered, ofInfix tokens = .ok ordered ∧ Conserves tokens ordered) ↔
      Token.Writable tokens) ∧
    (¬Token.Writable tokens → ofInfix tokens = .error .numeralTooLong) := by
  refine ⟨⟨?_, fun writable => ?_⟩, ofInfix_eq_error known⟩
  · rintro ⟨ordered, converted, -⟩
    exact (ofInfix_eq_ok_iff.mp converted).2
  · obtain ⟨ordered, converted⟩ := exists_ofInfix known writable
    exact ⟨ordered, converted, conserves_of_ofInfix converted⟩

/-- One parenthesis is closed without being opened, another one opened without being closed. -/
def lopsidedTokens : List Token :=
  [.now, .rightParenthesis, .ofOperator .subtract, .unaryMinus, .leftParenthesis, .now,
    .ofOperator .add, .now]

theorem ofInfix_conserves_lopsidedTokens :
    Token.Known lopsidedTokens ∧
      ∃ ordered, ofInfix lopsidedTokens = .ok ordered ∧ Conserves lopsidedTokens ordered := by
  have known : Token.Known lopsidedTokens := by decide
  exact ⟨known, (ofInfix_conserves known).1.mpr (by decide)⟩

theorem not_ofInfix_conserves :
    ¬∀ tokens : List Token, Token.Known tokens →
      ∃ ordered, ofInfix tokens = .ok ordered ∧ Conserves tokens ordered := by
  intro conserves
  obtain ⟨ordered, converted, -⟩ := conserves overlongDifference (by decide)
  exact not_writable_of_overlongSeconds (by simp [overlongDifference])
    (ofInfix_eq_ok_iff.mp converted).2

end ReversePolish

end DateCalculator
