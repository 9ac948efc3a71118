import DateCalculator.Calculator
import DateCalculator.Proofs.Conservation
import DateCalculator.Proofs.Derivability
import DateCalculator.Proofs.StackEvaluation

/-!
Which malformed expressions have a value. The conversion to reverse Polish order checks nothing, and
the evaluation only sees whether there is one operand more than there are operators. So an operator
too many goes unnoticed when a parenthesis hides that two operands follow each other.
-/

namespace DateCalculator

namespace Token

def isOperator : Token → Bool
  | operator _ => true
  | _ => false

/-- Somewhere an operand starts directly behind the end of another. -/
def Juxtaposed (tokens : List Token) : Prop :=
  ∃ before left right after, tokens = before ++ left :: right :: after ∧
    left.opensOperand = false ∧ right.startsOperand = true

theorem Juxtaposed.cons {tokens : List Token} (juxtaposed : Juxtaposed tokens) (token : Token) :
    Juxtaposed (token :: tokens) := by
  obtain ⟨before, left, right, after, rfl, ended, starts⟩ := juxtaposed
  exact ⟨token :: before, left, right, after, rfl, ended, starts⟩

theorem not_juxtaposed_of_alternates {awaiting : Bool} {tokens : List Token}
    (alternates : Alternates awaiting tokens) : ¬Juxtaposed tokens := by
  rintro ⟨before, left, right, after, rfl, ended, starts⟩
  induction before generalizing awaiting with
  | nil =>
      have same : right.startsOperand = left.opensOperand := alternates.2.1
      rw [ended, starts] at same
      contradiction
  | cons token before ih => exact ih alternates.2

/-- Without operands that follow each other there are never too many of them, and there are enough
exactly if they alternate with the operators. -/
theorem operands_of_not_juxtaposed {tokens : List Token} (free : ¬Juxtaposed tokens)
    (awaiting : Bool)
    (first : ∀ right after, tokens = right :: after → right.startsOperand = true →
      awaiting = true) :
    tokens.countP isOperand ≤ tokens.countP isOperator + awaiting.toNat ∧
      (tokens.countP isOperand = tokens.countP isOperator + awaiting.toNat ↔
        Alternates awaiting tokens) := by
  induction tokens generalizing awaiting with
  | nil => cases awaiting <;> simp [Alternates]
  | cons token tokens ih =>
      have inner : ¬Juxtaposed tokens := fun juxtaposed => free (juxtaposed.cons token)
      have follows : ∀ right after, tokens = right :: after → right.startsOperand = true →
          token.opensOperand = true := by
        rintro right after rfl starts
        cases ended : token.opensOperand with
        | true => rfl
        | false => exact absurd ⟨[], token, right, after, rfl, ended, starts⟩ free
      have ⟨most, enough⟩ := ih inner token.opensOperand follows
      have start := first token tokens rfl
      rw [Alternates, ← enough, List.countP_cons, List.countP_cons]
      cases token <;> cases awaiting <;>
        simp [isOperand, isOperator, startsOperand, opensOperand] at start most ⊢ <;> omega

end Token

namespace OperatorTree

theorem operands_postorder (tree : OperatorTree) :
    tree.postorder.countP Token.isOperand = tree.postorder.countP Token.isOperator + 1 := by
  induction tree with
  | literal value => rfl
  | now => rfl
  | negation operand ih => simpa [postorder, List.countP_append, Token.isOperand, Token.isOperator]
  | binary symbol left right ihLeft ihRight =>
      simp only [postorder, List.countP_append, List.countP_singleton, Token.isOperand,
        Token.isOperator]
      simp
      omega

end OperatorTree

namespace ReversePolish

theorem isOperand_parenthesis (token : Token) (parenthesis : isParenthesis token = true) :
    token.isOperand = false := by
  cases token with
  | leftParenthesis | rightParenthesis => rfl
  | literal | now | operator | unaryMinus => contradiction

theorem isOperator_parenthesis (token : Token) (parenthesis : isParenthesis token = true) :
    token.isOperator = false := by
  cases token with
  | leftParenthesis | rightParenthesis => rfl
  | literal | now | operator | unaryMinus => contradiction

end ReversePolish

namespace Calculator

open Token

theorem calculate_eq_ok {clock : Clock} {reads : Nat} {text : String} {value : Value}
    (valued : (calculate clock reads text).result = .ok value) :
    ∃ tokens ordered, tokenize text = .ok tokens ∧ ReversePolish.ofInfix tokens = .ok ordered ∧
      (Evaluation.evaluate clock reads ordered).result = .ok value := by
  cases scanned : tokenize text with
  | error failure =>
      rw [calculate, scanned] at valued
      contradiction
  | ok tokens =>
      rw [calculate_of_tokenize scanned, calculateTokens] at valued
      split at valued
      next => contradiction
      next ordered converted => exact ⟨tokens, ordered, rfl, converted, valued⟩

theorem operands_of_calculate {clock : Clock} {reads : Nat} {text : String} {value : Value}
    (valued : (calculate clock reads text).result = .ok value) :
    ∃ tokens, tokenize text = .ok tokens ∧
      tokens.countP isOperand = tokens.countP isOperator + 1 := by
  obtain ⟨tokens, ordered, scanned, reordered, evaluated⟩ := calculate_eq_ok valued
  obtain ⟨tree, rfl, -⟩ := Evaluation.exists_tree_of_evaluate evaluated
  have balance := tree.operands_postorder
  rw [ReversePolish.countP_ofInfix ReversePolish.isOperand_parenthesis reordered,
    ReversePolish.countP_ofInfix ReversePolish.isOperator_parenthesis reordered] at balance
  exact ⟨tokens, scanned, balance⟩

/-- An expression with a value is one of the grammar, up to missing parentheses, exactly if no
operand in it starts directly behind the end of another. -/
theorem derivable_iff_not_juxtaposed {clock : Clock} {reads : Nat} {text : String} {value : Value}
    (valued : (calculate clock reads text).result = .ok value) :
    ∃ tokens, tokenize text = .ok tokens ∧ (Derivable (repaired tokens) ↔ ¬Juxtaposed tokens) := by
  obtain ⟨tokens, scanned, balance⟩ := operands_of_calculate valued
  refine ⟨tokens, scanned, ?_⟩
  rw [derivable_repaired_iff (tokenize_chained scanned).known]
  constructor
  · exact not_juxtaposed_of_alternates
  · intro free
    exact (operands_of_not_juxtaposed free true fun _ _ _ _ => rfl).2.mp balance

def days (count : Nat) : Duration := .ofAmounts false fun
  | .day => count
  | _ => 0

def misplacedPlus : String := "P1D(P1D+)"

theorem tokenize_misplacedPlus :
    tokenize misplacedPlus = .ok [.literal (.duration (days 1)), .leftParenthesis,
      .literal (.duration (days 1)), .ofOperator .add, .rightParenthesis] := by
  have scanned : (tokenize misplacedPlus).toOption = some [.literal (.duration (days 1)),
      .leftParenthesis, .literal (.duration (days 1)), .ofOperator .add, .rightParenthesis] := by
    decide +kernel
  cases outcome : tokenize misplacedPlus with
  | error failure => simp [outcome, Except.toOption] at scanned
  | ok tokens => simpa [outcome, Except.toOption] using scanned

theorem calculate_misplacedPlus (clock : Clock) :
    calculate clock 0 misplacedPlus = ⟨.ok (.duration (days 2)), 0⟩ := by
  let sum : OperatorTree :=
    .binary Operator.add.symbol (.literal (.duration (days 1))) (.literal (.duration (days 1)))
  have meant : sum.meaning clock 0 = ⟨.ok (.duration (days 2)), 0⟩ := rfl
  have printable : (Value.duration (days 2)).Printable := by decide +kernel
  have evaluated := Evaluation.evaluate_postorder clock 0 sum
  rw [meant, Outcome.andThen_ok, Evaluation.result_singleton printable] at evaluated
  have converted : ReversePolish.ofInfix [.literal (.duration (days 1)), .leftParenthesis,
      .literal (.duration (days 1)), .ofOperator .add, .rightParenthesis] = .ok sum.postorder :=
    ReversePolish.ofInfix_eq_ok_iff.mpr ⟨rfl, by decide +kernel⟩
  rw [calculate_of_tokenize tokenize_misplacedPlus, calculateTokens_of_ofInfix converted]
  exact evaluated

theorem derivable_iff_not_juxtaposed_misplacedPlus :
    (calculate (fun _ => .earliest) 0 misplacedPlus).result = .ok (.duration (days 2)) ∧
      ∃ tokens, tokenize misplacedPlus = .ok tokens ∧
        (Derivable (repaired tokens) ↔ ¬Juxtaposed tokens) := by
  have valued : (calculate (fun _ => .earliest) 0 misplacedPlus).result =
      .ok (.duration (days 2)) := by rw [calculate_misplacedPlus]
  exact ⟨valued, derivable_iff_not_juxtaposed valued⟩

theorem not_derivable_of_calculate :
    ¬∀ (clock : Clock) (reads : Nat) (text : String) (tokens : List Token) (value : Value),
      tokenize text = .ok tokens → (calculate clock reads text).result = .ok value →
        Derivable (repaired tokens) := by
  intro derives
  have derived := derives (fun _ => .earliest) 0 misplacedPlus _ (.duration (days 2))
    tokenize_misplacedPlus (by rw [calculate_misplacedPlus])
  rw [derivable_repaired_iff (tokenize_chained tokenize_misplacedPlus).known] at derived
  exact Bool.noConfusion derived.2.1

end Calculator

end DateCalculator
