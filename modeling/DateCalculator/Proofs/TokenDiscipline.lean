import DateCalculator.Calculator
import DateCalculator.Proofs.EvaluationRun
import DateCalculator.Proofs.FaithfulSegmentation
import DateCalculator.Proofs.OperandOrder
import DateCalculator.Proofs.PrintableTokens
import DateCalculator.Proofs.RuleFailure

/-!
The discipline of scanned tokens. Each token stands where it may stand behind the one before it,
whichever of the lexical rules are tried and in whichever order. So the conversion to reverse Polish
order and the evaluation, which look every operator up, always find it.
-/

namespace DateCalculator

namespace Token

theorem getLast?_or_cons (first : Token) (read : List Token) (before : Option Token) :
    (first :: read).getLast?.or before = read.getLast?.or (some first) := by
  rw [List.getLast?_cons, Option.some_or, Option.or_some]

theorem Chained.at {before : Option Token} {read rest : List Token} {token : Token}
    (chained : Chained before (read ++ token :: rest)) :
    Fits (read.getLast?.or before) token ∧ Separated (read.getLast?.or before) token := by
  induction read generalizing before with
  | nil =>
      obtain ⟨fits, separated, -⟩ := chained
      exact ⟨fits, separated⟩
  | cons first read ih =>
      obtain ⟨-, -, later⟩ := chained
      rw [getLast?_or_cons]
      exact ih later

/-- Directly behind these tokens, or at the start if there are none. -/
def Behind (kind : Token → Prop) (read : List Token) : Prop :=
  ∃ earlier previous, read = earlier ++ [previous] ∧ kind previous

/-- Where tokens stand: operands are never neighbours, a minus is unary only where nothing stands to
its left, and binary only behind an operand or its closing parenthesis. -/
structure Disciplined (tokens : List Token) : Prop where
  operands : ∀ read left right rest, tokens = read ++ left :: right :: rest →
    ¬(left.isOperand = true ∧ right.isOperand = true)
  unaryMinus : ∀ read rest, tokens = read ++ .unaryMinus :: rest → read = [] ∨
    Behind (fun previous => (∃ operator, previous = .ofOperator operator) ∨
      previous = .unaryMinus ∨ previous = .leftParenthesis) read
  binaryMinus : ∀ read rest, tokens = read ++ .ofOperator .subtract :: rest →
    Behind (fun previous => previous.isOperand = true ∨ previous = .rightParenthesis) read
  operators : Known tokens

theorem opensOperand_cases {token : Token} (opens : token.opensOperand = true) :
    (∃ symbol, token = .operator symbol) ∨ token = .unaryMinus ∨ token = .leftParenthesis := by
  cases token with
  | operator symbol => exact .inl ⟨symbol, rfl⟩
  | unaryMinus => exact .inr (.inl rfl)
  | leftParenthesis => exact .inr (.inr rfl)
  | literal | now | rightParenthesis => contradiction

theorem not_opensOperand_cases {token : Token} (closes : token.opensOperand ≠ true) :
    token.isOperand = true ∨ token = .rightParenthesis := by
  cases token with
  | literal | now => exact .inl rfl
  | rightParenthesis => exact .inr rfl
  | operator | unaryMinus | leftParenthesis => exact absurd rfl closes

theorem disciplined_of_chained {tokens : List Token} (chained : Chained none tokens) :
    Disciplined tokens where
  operators := chained.known
  operands := by
    rintro read left right rest rfl both
    have split : read ++ left :: right :: rest = (read ++ [left]) ++ right :: rest := by simp
    rw [split] at chained
    have separated := chained.at.2
    rw [List.getLast?_concat] at separated
    exact separated left rfl both
  unaryMinus := by
    rintro read rest rfl
    have fits := chained.at.1
    rcases List.eq_nil_or_concat read with rfl | ⟨earlier, previous, rfl⟩
    · exact .inl rfl
    · right
      rw [List.concat_eq_append, List.getLast?_concat] at fits
      refine ⟨earlier, previous, List.concat_eq_append, ?_⟩
      rcases opensOperand_cases fits with ⟨symbol, rfl⟩ | other
      · obtain ⟨operator, rfl⟩ := chained.known symbol (by simp)
        exact .inl ⟨operator, rfl⟩
      · exact .inr other
  binaryMinus := by
    rintro read rest rfl
    obtain ⟨operator, same, binary⟩ := chained.at.1
    have subtraction : operator = .subtract := by cases operator <;> first | rfl | contradiction
    have inside := binary subtraction
    rcases List.eq_nil_or_concat read with rfl | ⟨earlier, previous, rfl⟩
    · exact absurd rfl inside
    · rw [List.concat_eq_append, List.getLast?_concat] at inside
      exact ⟨earlier, previous, List.concat_eq_append, not_opensOperand_cases inside⟩

end Token

namespace Failure

/-- Something is looked up that is not there: a token among the operators, or its rank. -/
inductive OfLookup : Failure → Prop
  | unknownOperator (symbol) : OfLookup (.unknownOperator symbol)
  | unrankedOperator (symbol) : OfLookup (.unrankedOperator symbol)

/-- A rule has no result, operands are missing or values are left over. -/
inductive OfEvaluation : Failure → Prop
  | rule {failure} : failure.OfRule → OfEvaluation failure
  | minusWithoutOperand : OfEvaluation .minusWithoutOperand
  | missingOperands (symbol) : OfEvaluation (.missingOperands symbol)
  | nothingToEvaluate : OfEvaluation .nothingToEvaluate
  | unjoinedValues (count) : OfEvaluation (.unjoinedValues count)

theorem OfEvaluation.not_ofLookup {failure : Failure} (ofEvaluation : failure.OfEvaluation) :
    ¬failure.OfLookup := by
  rintro (_ | _) <;> rcases ofEvaluation with ⟨⟨⟩⟩

end Failure

theorem FailsInRule.ofEvaluation_of_map {First Second : Type} {outcome : Except Failure First}
    (fails : FailsInRule outcome) {change : First → Second} {failure : Failure}
    (failed : outcome.map change = .error failure) : failure.OfEvaluation := by
  cases outcome with
  | ok value => contradiction
  | error other =>
      cases failed
      exact .rule (fails failure rfl)

namespace Evaluation

variable {stack : List Value} {failure : Failure}

theorem ofEvaluation_step {token : Token}
    (known : ∀ symbol, token = .operator symbol → ∃ operator : Operator, symbol = operator.symbol)
    (unparenthesized : ReversePolish.isParenthesis token = false) (other : token ≠ .now)
    (failed : step token stack = .error failure) : failure.OfEvaluation := by
  cases token with
  | literal value => contradiction
  | unaryMinus =>
      rcases stack with _ | ⟨operand, stack⟩
      · cases failed
        exact .minusWithoutOperand
      · exact (Arithmetic.negate_failsInRule operand).ofEvaluation_of_map failed
  | operator symbol =>
      rcases stack with _ | ⟨right, _ | ⟨left, stack⟩⟩
      · cases failed
        exact .missingOperands symbol
      · cases failed
        exact .missingOperands symbol
      · rcases Arithmetic.apply_failsInRule_or symbol left right with fails | ⟨unknown, -⟩
        · exact fails.ofEvaluation_of_map failed
        · obtain ⟨operator, rfl⟩ := known symbol rfl
          rw [Operator.ofSymbol?_symbol] at unknown
          contradiction
  | now | leftParenthesis | rightParenthesis => contradiction

theorem ofEvaluation_result (failed : result stack = .error failure) : failure.OfEvaluation := by
  unfold result at failed
  split at failed
  · cases failed
    exact .nothingToEvaluate
  · split at failed
    · contradiction
    · cases failed
      exact .rule .numeralTooLong
  · cases failed
    exact .unjoinedValues _

/-- Without parentheses and with known operators every token finds what it needs but for operands. -/
theorem ofEvaluation_evaluate {clock : Clock} {reads : Nat} {tokens : List Token}
    (known : Token.Known tokens)
    (unparenthesized : ∀ token ∈ tokens, ReversePolish.isParenthesis token = false)
    (failed : (evaluate clock reads tokens).result = .error failure) : failure.OfEvaluation := by
  obtain ⟨position, failsAt⟩ := exists_failsAt failed
  cases failsAt with
  | @token before token after stack count _ whole other reached stopped =>
      have member : token ∈ tokens := by simp [← whole]
      refine ofEvaluation_step ?_ (unparenthesized token member) other stopped
      rintro symbol rfl
      exact known symbol member
  | last reached stopped => exact ofEvaluation_result stopped

end Evaluation

namespace Token

variable {rules : List Recognizer} {text : String} {tokens : List Token}

/-- What the evaluation of scanned tokens can rely on. -/
structure Ordered (tokens ordered : List Token) : Prop where
  reordered : ReversePolish.ofInfix tokens = .ok ordered
  unparenthesized : ∀ token ∈ ordered, ReversePolish.isParenthesis token = false
  found : ∀ (clock : Clock) (reads : Nat) (failure : Failure),
    (Evaluation.evaluate clock reads ordered).result = .error failure → failure.OfEvaluation

theorem tokenizeWith_chained (lexical : ∀ rule ∈ rules, rule ∈ recognizers)
    (scanned : tokenizeWith rules text = .ok tokens) : Chained none tokens :=
  scan_chained (fun rule member => recognizers_sound rule (lexical rule member)) scanned

theorem exists_ordered (lexical : ∀ rule ∈ rules, rule ∈ recognizers)
    (scanned : tokenizeWith rules text = .ok tokens) : ∃ ordered, Ordered tokens ordered := by
  have known := (tokenizeWith_chained lexical scanned).known
  obtain ⟨ordered, reordered⟩ := exists_ofInfix_of_scan lexical scanned
  have subset := ReversePolish.ofInfix_subset reordered
  have unparenthesized := (ReversePolish.conserves_of_ofInfix reordered).unparenthesized
  refine ⟨ordered, reordered, unparenthesized, fun clock reads failure failed => ?_⟩
  exact Evaluation.ofEvaluation_evaluate (fun symbol member => known symbol (subset member))
    unparenthesized failed

theorem Unscanned.not_ofLookup {property : Token → Prop} {failure : Failure}
    (unscanned : Unscanned property failure) : ¬failure.OfLookup := by
  rintro (_ | _) <;> rcases unscanned with ⟨⟩

end Token

theorem Calculator.not_ofLookup_calculate {clock : Clock} {reads : Nat} {text : String}
    {failure : Failure} (failed : (calculate clock reads text).result = .error failure) :
    ¬failure.OfLookup := by
  cases scanned : Token.tokenize text with
  | error other =>
      rw [calculate, scanned] at failed
      cases failed
      exact (Token.unscanned_printable (fun _ member => member) scanned).not_ofLookup
  | ok tokens =>
      obtain ⟨ordered, settled⟩ := Token.exists_ordered (fun _ member => member) scanned
      rw [calculate_of_tokenize scanned, calculateTokens_of_ofInfix settled.reordered] at failed
      exact (settled.found clock reads failure failed).not_ofLookup

namespace Token

/-- Scanned tokens are disciplined, whichever of the lexical rules are tried and in whichever order,
and so they have a reverse Polish order whose evaluation finds every operator. No calculation fails
because an operator is unknown or has no rank. -/
theorem tokens_disciplined :
    (∀ rules : List Recognizer, (∀ rule ∈ rules, rule ∈ recognizers) →
      ∀ (text : String) (tokens : List Token), tokenizeWith rules text = .ok tokens →
        Disciplined tokens ∧ ∃ ordered, Ordered tokens ordered) ∧
    ∀ (clock : Clock) (reads : Nat) (text : String) (failure : Failure),
      (Calculator.calculate clock reads text).result = .error failure → ¬failure.OfLookup := by
  constructor
  · intro rules lexical text tokens scanned
    exact ⟨disciplined_of_chained (tokenizeWith_chained lexical scanned),
      exists_ordered lexical scanned⟩
  · intro clock reads text failure failed
    exact Calculator.not_ofLookup_calculate failed

def doubledMinus : List Token :=
  [.now, .ofOperator .subtract, .unaryMinus, .leftParenthesis, .unaryMinus, .now]

theorem tokens_disciplined_doubledMinus :
    tokenizeWith [recognizeSymbol, recognizeNow, recognizeSymbol] "now - -(-now" =
        .ok doubledMinus ∧
      Disciplined doubledMinus ∧ ∃ ordered, Ordered doubledMinus ordered := by
  have scanned : tokenizeWith [recognizeSymbol, recognizeNow, recognizeSymbol] "now - -(-now" =
      .ok doubledMinus := eq_ok_of_toOption (by decide +kernel)
  have lexical : ∀ rule ∈ [recognizeSymbol, recognizeNow, recognizeSymbol],
      rule ∈ recognizers := by
    simp [recognizers]
  exact ⟨scanned, tokens_disciplined.1 _ lexical _ _ scanned⟩

end Token

end DateCalculator
