import DateCalculator.Proofs.InfixGrammar
import DateCalculator.Proofs.TokenSequence

/-!
Which token lists the infix grammar derives: those whose operands and operators alternate and whose
parentheses are balanced. The first of these does not change when parentheses are added to balance
an expression.
-/

namespace DateCalculator

namespace Token

def startsOperand : Token → Bool
  | literal _ => true
  | now => true
  | unaryMinus => true
  | leftParenthesis => true
  | _ => false

/-- Operands stand where they are awaited, and operators and closing parentheses elsewhere. -/
def Alternates : Bool → List Token → Prop
  | awaiting, [] => awaiting = false
  | awaiting, token :: tokens =>
      token.startsOperand = awaiting ∧ Alternates token.opensOperand tokens

/-- The parentheses close those that are open, at this depth, and each other. -/
def Closes : Nat → List Token → Prop
  | depth, [] => depth = 0
  | depth, .leftParenthesis :: tokens => Closes (depth + 1) tokens
  | depth, .rightParenthesis :: tokens => 0 < depth ∧ Closes (depth - 1) tokens
  | depth, _ :: tokens => Closes depth tokens

/-- How many closing parentheses have no partner, when so many are open. -/
def unopened : Nat → List Token → Nat
  | _, [] => 0
  | depth, .leftParenthesis :: tokens => unopened (depth + 1) tokens
  | depth, .rightParenthesis :: tokens => (if depth = 0 then 1 else 0) + unopened (depth - 1) tokens
  | depth, _ :: tokens => unopened depth tokens

def unclosed : Nat → List Token → Nat
  | depth, [] => depth
  | depth, .leftParenthesis :: tokens => unclosed (depth + 1) tokens
  | depth, .rightParenthesis :: tokens => unclosed (depth - 1) tokens
  | depth, _ :: tokens => unclosed depth tokens

/-- Balances the parentheses: the missing ones are added at both ends. -/
def repaired (tokens : List Token) : List Token :=
  List.replicate (unopened 0 tokens) .leftParenthesis ++ tokens ++
    List.replicate (unclosed 0 tokens) .rightParenthesis

theorem alternates_openings (count : Nat) (tokens : List Token) :
    Alternates true (List.replicate count .leftParenthesis ++ tokens) ↔ Alternates true tokens := by
  induction count with
  | zero => rfl
  | succ count ih =>
      rw [List.replicate_succ, List.cons_append]
      constructor
      · intro alternates
        exact ih.mp alternates.2
      · intro alternates
        exact ⟨rfl, ih.mpr alternates⟩

theorem alternates_closings (awaiting : Bool) (count : Nat) :
    Alternates awaiting (List.replicate count .rightParenthesis) ↔ awaiting = false := by
  induction count generalizing awaiting with
  | zero => rfl
  | succ count ih =>
      constructor
      · intro alternates
        exact alternates.1.symm
      · intro none
        exact ⟨none.symm, (ih _).mpr rfl⟩

theorem alternates_append_closings (awaiting : Bool) (tokens : List Token) (count : Nat) :
    Alternates awaiting (tokens ++ List.replicate count .rightParenthesis) ↔
      Alternates awaiting tokens := by
  induction tokens generalizing awaiting with
  | nil => exact alternates_closings awaiting count
  | cons token tokens ih => exact and_congr_right fun _ => ih token.opensOperand

theorem alternates_repaired (tokens : List Token) :
    Alternates true (repaired tokens) ↔ Alternates true tokens := by
  rw [repaired, List.append_assoc, alternates_openings, alternates_append_closings]

theorem closes_openings (count depth : Nat) (tokens : List Token) :
    Closes depth (List.replicate count .leftParenthesis ++ tokens) ↔
      Closes (depth + count) tokens := by
  induction count generalizing depth with
  | zero => rfl
  | succ count ih =>
      rw [List.replicate_succ, List.cons_append, Closes, ih]
      rw [Nat.add_right_comm, Nat.add_assoc]

theorem closes_closings (depth : Nat) :
    Closes depth (List.replicate depth .rightParenthesis) := by
  induction depth with
  | zero => rfl
  | succ depth ih => exact ⟨Nat.succ_pos depth, ih⟩

theorem closes_append_closings (depth : Nat) (tokens : List Token) :
    Closes (depth + unopened depth tokens)
      (tokens ++ List.replicate (unclosed depth tokens) .rightParenthesis) := by
  fun_induction unopened depth tokens with
  | case1 depth => exact closes_closings depth
  | case2 depth tokens ih =>
      rw [Nat.add_right_comm] at ih
      exact ih
  | case3 depth tokens ih =>
      by_cases top : depth = 0
      · subst depth
        rw [Nat.zero_add] at ih
        rw [if_pos rfl, Nat.zero_add, Nat.add_comm]
        exact ⟨Nat.succ_pos _, ih⟩
      · have inside : 0 < depth := Nat.pos_of_ne_zero top
        refine ⟨by omega, ?_⟩
        rw [if_neg top, Nat.zero_add, Nat.sub_add_comm inside]
        exact ih
  | case4 depth token tokens opened closed ih =>
      cases token with
      | leftParenthesis | rightParenthesis => contradiction
      | literal | now | operator | unaryMinus => exact ih

theorem closes_repaired (tokens : List Token) : Closes 0 (repaired tokens) := by
  rw [repaired, List.append_assoc, closes_openings]
  exact closes_append_closings 0 tokens

theorem Known.repaired {tokens : List Token} (known : Known tokens) : Known (repaired tokens) := by
  intro symbol member
  rw [Token.repaired] at member
  simp only [List.mem_append, List.mem_replicate, reduceCtorEq, and_false, or_false, false_or]
    at member
  exact known symbol member

end Token

namespace Infix

open Token

theorem tokens_alternate {level : Level} (expression : Infix level) (rest : List Token) :
    Alternates true (expression.tokens ++ rest) ↔ Alternates false rest := by
  induction expression generalizing rest with
  | sum operator _ left right ihLeft ihRight | product operator _ left right ihLeft ihRight =>
      rw [tokens, List.append_assoc, ihLeft]
      constructor
      · intro alternates
        exact (ihRight rest).mp alternates.2
      · intro alternates
        exact ⟨rfl, (ihRight rest).mpr alternates⟩
  | ofTerm inner ih | ofFactor inner ih | ofAtom inner ih => exact ih rest
  | negation operand ih =>
      constructor
      · intro alternates
        exact (ih rest).mp alternates.2
      · intro alternates
        exact ⟨rfl, (ih rest).mpr alternates⟩
  | literal value | now =>
      constructor
      · intro alternates
        exact alternates.2
      · intro alternates
        exact ⟨rfl, alternates⟩
  | parenthesized inner ih =>
      rw [tokens, List.append_assoc, List.cons_append]
      constructor
      · intro alternates
        exact ((ih _).mp alternates.2).2
      · intro alternates
        exact ⟨rfl, (ih _).mpr ⟨rfl, alternates⟩⟩

theorem exists_append (expression : Infix .sum) (operator : Operator) (factor : Infix .factor) :
    ∃ longer : Infix .sum,
      longer.tokens = expression.tokens ++ .ofOperator operator :: factor.tokens := by
  have appended (multiplicative : operator = .multiply ∨ operator = .divide) :
      ∃ longer : Infix .sum,
        longer.tokens = expression.tokens ++ .ofOperator operator :: factor.tokens := by
    cases expression with
    | sum first additive left right =>
        exact ⟨.sum first additive left (.product operator multiplicative right factor),
          by simp [tokens]⟩
    | ofTerm inner => exact ⟨.ofTerm (.product operator multiplicative inner factor), rfl⟩
  cases operator with
  | add => exact ⟨.sum .add (.inl rfl) expression (.ofFactor factor), rfl⟩
  | subtract => exact ⟨.sum .subtract (.inr rfl) expression (.ofFactor factor), rfl⟩
  | multiply => exact appended (.inl rfl)
  | divide => exact appended (.inr rfl)

theorem length_rest_lt {level : Level} (expression : Infix level) (rest : List Token) :
    rest.length < (expression.tokens ++ rest).length := by
  have nonempty : 0 < expression.tokens.length := by
    induction expression with
    | sum | product =>
        rw [tokens, List.length_append, List.length_cons]
        omega
    | negation | literal | now | parenthesized => simp [tokens]
    | ofTerm inner ih | ofFactor inner ih | ofAtom inner ih => exact ih
  rw [List.length_append]
  omega

end Infix

namespace Token

structure Readable (awaiting : Bool) (depth : Nat) (tokens : List Token) : Prop where
  alternates : Alternates awaiting tokens
  closes : Closes depth tokens
  known : Known tokens

theorem Readable.behind_operand {depth : Nat} {token : Token} {tokens : List Token}
    (readable : Readable true depth (token :: tokens)) (operand : token.isOperand = true) :
    Readable false depth tokens := by
  obtain ⟨⟨-, alternates⟩, closes, known⟩ := readable
  cases token with
  | literal value => exact ⟨alternates, closes, known.tail⟩
  | now => exact ⟨alternates, closes, known.tail⟩
  | operator | unaryMinus | leftParenthesis | rightParenthesis => contradiction

theorem Readable.ended {depth : Nat} {tokens : List Token}
    (readable : Readable false depth tokens)
    (ended : ∀ symbol tail, tokens ≠ .operator symbol :: tail) :
    tokens = [] ∧ depth = 0 ∨
      ∃ tail, tokens = .rightParenthesis :: tail ∧ 0 < depth ∧ Readable false (depth - 1) tail := by
  obtain ⟨alternates, closes, known⟩ := readable
  cases tokens with
  | nil => exact .inl ⟨rfl, closes⟩
  | cons token tail =>
      cases token with
      | rightParenthesis => exact .inr ⟨tail, rfl, closes.1, alternates.2, closes.2, known.tail⟩
      | operator symbol => exact absurd rfl (ended symbol tail)
      | literal | now | unaryMinus | leftParenthesis =>
          exact absurd alternates.1.symm Bool.false_ne_true

-- Each of the three reads fewer tokens than it was given, or as many for one that comes before it.
mutual

theorem Readable.exists_factor {depth : Nat} {tokens : List Token}
    (readable : Readable true depth tokens) :
    ∃ (factor : Infix .factor) (rest : List Token),
      tokens = factor.tokens ++ rest ∧ Readable false depth rest := by
  match tokens, readable with
  | [], ⟨alternates, _, _⟩ => contradiction
  | .literal value :: tail, readable =>
      exact ⟨.ofAtom (.literal value), tail, rfl, readable.behind_operand rfl⟩
  | .now :: tail, readable => exact ⟨.ofAtom .now, tail, rfl, readable.behind_operand rfl⟩
  | .operator symbol :: tail, ⟨alternates, _, _⟩ => exact absurd alternates.1 Bool.false_ne_true
  | .rightParenthesis :: tail, ⟨alternates, _, _⟩ => exact absurd alternates.1 Bool.false_ne_true
  | .unaryMinus :: tail, ⟨alternates, closes, known⟩ =>
      have inner : Readable true depth tail := ⟨alternates.2, closes, known.tail⟩
      obtain ⟨factor, rest, rfl, left⟩ := inner.exists_factor
      exact ⟨.negation factor, rest, rfl, left⟩
  | .leftParenthesis :: tail, ⟨alternates, closes, known⟩ =>
      have inner : Readable true (depth + 1) tail := ⟨alternates.2, closes, known.tail⟩
      obtain ⟨sum, rest, rfl, left, ended⟩ := inner.exists_sum
      rcases left.ended ended with ⟨-, outside⟩ | ⟨rest, rfl, -, behind⟩
      · exact absurd outside (Nat.succ_ne_zero depth)
      · exact ⟨.ofAtom (.parenthesized sum), rest, by simp [Infix.tokens], behind⟩
termination_by (tokens.length, 0)

theorem Readable.exists_longer {depth : Nat} {rest : List Token} (expression : Infix .sum)
    (readable : Readable false depth rest) :
    ∃ (longer : Infix .sum) (left : List Token),
      expression.tokens ++ rest = longer.tokens ++ left ∧ Readable false depth left ∧
      ∀ symbol tail, left ≠ .operator symbol :: tail := by
  by_cases continued : ∃ symbol tail, rest = .operator symbol :: tail
  · obtain ⟨symbol, tail, rfl⟩ := continued
    obtain ⟨alternates, closes, known⟩ := readable
    obtain ⟨operator, rfl⟩ := known symbol List.mem_cons_self
    have inner : Readable true depth tail := ⟨alternates.2, closes, known.tail⟩
    obtain ⟨factor, left, rfl, behind⟩ := inner.exists_factor
    obtain ⟨appended, same⟩ := expression.exists_append operator factor
    obtain ⟨longer, last, read, ended⟩ := behind.exists_longer appended
    refine ⟨longer, last, ?_, ended⟩
    rw [← read, same, List.append_assoc]
    rfl
  · exact ⟨expression, rest, rfl, readable,
      fun symbol tail same => continued ⟨symbol, tail, same⟩⟩
termination_by (rest.length, 1)

theorem Readable.exists_sum {depth : Nat} {tokens : List Token}
    (readable : Readable true depth tokens) :
    ∃ (sum : Infix .sum) (rest : List Token),
      tokens = sum.tokens ++ rest ∧ Readable false depth rest ∧
      ∀ symbol tail, rest ≠ .operator symbol :: tail := by
  obtain ⟨factor, rest, same, left⟩ := readable.exists_factor
  have shorter : rest.length < tokens.length := same ▸ factor.length_rest_lt rest
  obtain ⟨sum, last, read, ended⟩ := left.exists_longer (.ofTerm (.ofFactor factor))
  exact ⟨sum, last, same.trans read, ended⟩
termination_by (tokens.length, 2)

end

def Derivable (tokens : List Token) : Prop := ∃ expression : Infix .sum, expression.tokens = tokens

theorem derivable_of_alternates {tokens : List Token} (alternates : Alternates true tokens)
    (closes : Closes 0 tokens) (known : Known tokens) : Derivable tokens := by
  have readable : Readable true 0 tokens := ⟨alternates, closes, known⟩
  obtain ⟨sum, rest, rfl, left, ended⟩ := readable.exists_sum
  rcases left.ended ended with ⟨rfl, -⟩ | ⟨-, -, inside, -⟩
  · exact ⟨sum, (List.append_nil _).symm⟩
  · exact absurd inside (Nat.lt_irrefl 0)

/-- Adding the missing parentheses makes an expression of the tokens if anything can. -/
theorem derivable_repaired_iff {tokens : List Token} (known : Known tokens) :
    Derivable (repaired tokens) ↔ Alternates true tokens := by
  rw [← alternates_repaired]
  constructor
  · rintro ⟨expression, same⟩
    rw [← same, ← List.append_nil expression.tokens, expression.tokens_alternate]
    rfl
  · intro alternates
    exact derivable_of_alternates alternates (closes_repaired tokens) known.repaired

end Token

end DateCalculator
