import DateCalculator.Calculator
import DateCalculator.Proofs.CalendarRange
import DateCalculator.Proofs.EvaluationRun
import DateCalculator.Proofs.UnmatchedParentheses

/-!
Readings of the clock. An expression has the outcome of the one in which each `now`, from the left,
is replaced by the next reading. A value takes one reading for every `now`, and a failure as many as
stand in front of the place where it happens: none, if the expression is not even put in order.
-/

namespace DateCalculator

/-- The tokens with each `now` replaced by the reading that it takes, from the left. -/
def sampled (clock : Clock) : Nat → List Token → List Token
  | _, [] => []
  | reads, .now :: tokens => .literal (.dateTime (clock reads)) :: sampled clock (reads + 1) tokens
  | reads, token :: tokens => token :: sampled clock reads tokens

/-- Tokens that take no reading. -/
def Clockless (tokens : List Token) : Prop := .now ∉ tokens

section Sampled

variable (clock : Clock) (reads : Nat)

theorem sampled_cons {token : Token} (other : token ≠ .now) (tokens : List Token) :
    sampled clock reads (token :: tokens) = token :: sampled clock reads tokens := by
  cases token <;> first | rfl | contradiction

theorem sampled_append {first : List Token} (clockless : Clockless first) (second : List Token) :
    sampled clock reads (first ++ second) = first ++ sampled clock reads second := by
  induction first with
  | nil => rfl
  | cons token first ih =>
      have other : token ≠ .now := (List.ne_of_not_mem_cons clockless).symm
      have later : Clockless first := List.not_mem_of_not_mem_cons clockless
      rw [List.cons_append, sampled_cons clock reads other, ih later, List.cons_append]

theorem sampled_of_clockless {tokens : List Token} (clockless : Clockless tokens) :
    sampled clock reads tokens = tokens := by
  have appended := sampled_append clock reads clockless []
  rwa [List.append_nil, sampled, List.append_nil] at appended

theorem map_sampled_append {released : List Token} (clockless : Clockless released)
    (result : Except Failure (List Token)) :
    (result.map (sampled clock reads)).map (released ++ ·) =
      (result.map (released ++ ·)).map (sampled clock reads) := by
  cases result with
  | error failure => rfl
  | ok rest => exact congrArg Except.ok (sampled_append clock reads clockless rest).symm

end Sampled

/-- Readings can always be written out. -/
theorem writable_sampled (clock : Clock) (reads : Nat) (tokens : List Token) :
    Token.Writable (sampled clock reads tokens) ↔ Token.Writable tokens := by
  induction tokens generalizing reads with
  | nil => rfl
  | cons token tokens ih =>
      simp only [Token.Writable] at ih ⊢
      by_cases clocked : token = .now
      · subst token
        rw [sampled, List.forall_mem_cons, List.forall_mem_cons, ih]
        rfl
      · rw [sampled_cons clock reads clocked, List.forall_mem_cons, List.forall_mem_cons, ih]

theorem Clockless.cons {stack : List Token} (clockless : Clockless stack) {token : Token}
    (other : token ≠ .now) : Clockless (token :: stack) :=
  List.not_mem_cons_of_ne_of_not_mem other.symm clockless

theorem Clockless.subset {stack part : List Token} (clockless : Clockless stack)
    (inside : part ⊆ stack) : Clockless part :=
  fun member => clockless (inside member)

namespace ReversePolish

/-- Readings can be taken before the tokens are reordered, since operands keep their order and no
`now` waits on the stack. -/
theorem reorder_sampled (clock : Clock) {stack : List Token} (clockless : Clockless stack)
    (reads : Nat) (tokens : List Token) :
    reorder (sampled clock reads tokens) stack =
      (reorder tokens stack).map (sampled clock reads) := by
  induction tokens generalizing stack reads with
  | nil =>
      have kept : Clockless (withoutParentheses stack) :=
        clockless.subset List.filter_sublist.subset
      exact congrArg Except.ok (sampled_of_clockless clock reads kept).symm
  | cons token tokens ih =>
      cases token with
      | literal value =>
          rw [sampled_cons clock reads (by simp), reorder, reorder, ih clockless]
          · cases reorder tokens stack <;> rfl
          all_goals simp
      | now =>
          rw [sampled, reorder, reorder, ih clockless]
          · cases reorder tokens stack <;> rfl
          all_goals simp
      | leftParenthesis | unaryMinus =>
          rw [sampled_cons clock reads (by simp), reorder, reorder]
          exact ih (clockless.cons (by simp)) reads
      | rightParenthesis =>
          have left := clockless.subset (close_suffix stack).subset
          have closed := clockless.subset (close_subset stack)
          rw [sampled_cons clock reads (by simp), reorder, reorder, ih left,
            map_sampled_append clock reads closed]
      | operator symbol =>
          rw [sampled_cons clock reads (by simp)]
          simp only [reorder]
          cases rank? symbol with
          | none => rfl
          | some rank =>
              have left := clockless.subset (release_suffix rank stack).subset
              have released := clockless.subset (release_subset rank stack)
              dsimp only
              rw [ih (left.cons (by simp)), map_sampled_append clock reads released]

theorem ofInfix_sampled (clock : Clock) (reads : Nat) (tokens : List Token) :
    ofInfix (sampled clock reads tokens) = (ofInfix tokens).map (sampled clock reads) := by
  have sampledOrder := reorder_sampled clock List.not_mem_nil reads tokens
  cases reordered : reorder tokens [] with
  | error failure =>
      rw [reordered] at sampledOrder
      rw [ofInfix, ofInfix, reordered, sampledOrder]
      rfl
  | ok ordered =>
      rw [reordered] at sampledOrder
      rw [ofInfix_of_reorder reordered, ofInfix_of_reorder sampledOrder]
      simp only [writable_sampled]
      split <;> rfl

theorem count_now_ofInfix {tokens ordered : List Token}
    (reordered : ofInfix tokens = .ok ordered) : ordered.count .now = tokens.count .now := by
  refine countP_ofInfix ?_ reordered
  intro token parenthesis
  cases token <;> first | rfl | contradiction

end ReversePolish

namespace Evaluation

theorem reduce_sampled (clock other : Clock) (tokens : List Token) (stack : List Value)
    (reads start : Nat) :
    reduce other (sampled clock reads tokens) stack start =
      ⟨(reduce clock tokens stack reads).result, start⟩ := by
  induction tokens generalizing stack reads with
  | nil => rfl
  | cons token tokens ih =>
      by_cases clocked : token = .now
      · subst token
        exact ih (.dateTime (clock reads) :: stack) (reads + 1)
      · rw [sampled_cons clock reads clocked, reduce_cons clocked, reduce_cons clocked]
        cases step token stack with
        | ok next => exact ih next reads
        | error failure => rfl

theorem reads_of_value {clock : Clock} {reads : Nat} {tokens : List Token} {value : Value}
    (valued : (evaluate clock reads tokens).result = .ok value) :
    (evaluate clock reads tokens).reads = reads + tokens.count .now := by
  generalize outcomeEq : evaluate clock reads tokens = outcome at valued
  cases reduce_eq_iff_ends.mp outcomeEq with
  | finished reached => exact reached.count_eq
  | stopped => contradiction

/-- How an evaluation reads the clock, given its tokens before and after they were reordered. -/
structure ReadsInOrder (clock : Clock) (reads : Nat) (tokens ordered : List Token) : Prop where
  sampledOrder : ReversePolish.ofInfix (sampled clock reads tokens) =
    .ok (sampled clock reads ordered)
  sampledOutcome : ∀ (other : Clock) (start : Nat),
    evaluate other start (sampled clock reads ordered) =
      ⟨(evaluate clock reads ordered).result, start⟩
  value : ∀ value, (evaluate clock reads ordered).result = .ok value →
    (evaluate clock reads ordered).reads = reads + tokens.count .now
  failure : ∀ failure, (evaluate clock reads ordered).result = .error failure →
    ∃ position, FailsAt clock reads ordered position failure ∧
      (evaluate clock reads ordered).reads = reads + (ordered.take position).count .now ∧
      (position = ordered.length →
        (evaluate clock reads ordered).reads = reads + tokens.count .now)

theorem readsInOrder {tokens ordered : List Token}
    (reordered : ReversePolish.ofInfix tokens = .ok ordered) (clock : Clock) (reads : Nat) :
    ReadsInOrder clock reads tokens ordered := by
  have counted := ReversePolish.count_now_ofInfix reordered
  refine ⟨?_, fun other start => reduce_sampled clock other ordered [] reads start, ?_, ?_⟩
  · rw [ReversePolish.ofInfix_sampled, reordered]
    rfl
  · intro value valued
    rw [reads_of_value valued, counted]
  · intro failure failed
    obtain ⟨position, fails⟩ := exists_failsAt failed
    have outcome := fails.evaluate_eq
    refine ⟨position, fails, by rw [outcome], ?_⟩
    rintro rfl
    rw [outcome, List.take_length, counted]

end Evaluation

namespace Calculator

/-- Tokens have the outcome that they have with the readings put in. -/
theorem calculateTokens_sampled (clock other : Clock) (tokens : List Token) (reads start : Nat) :
    calculateTokens other start (sampled clock reads tokens) =
      ⟨(calculateTokens clock reads tokens).result, start⟩ := by
  rw [calculateTokens, calculateTokens, ReversePolish.ofInfix_sampled]
  cases ReversePolish.ofInfix tokens with
  | error failure => rfl
  | ok ordered => exact Evaluation.reduce_sampled clock other ordered [] reads start

/-- An expression that cannot be scanned takes no reading. Every other one has the outcome of its
tokens, and this is the outcome of the tokens with the readings put in from the left. Tokens that
cannot be written out fail without a reading; otherwise they take as many readings as they have
`now` if they have a value, and else as many as stand in front of the failure in reverse Polish
order. -/
theorem clock_read_in_order {tokens : List Token} (known : Token.Known tokens) (clock : Clock)
    (reads : Nat) :
    (∀ text failure, Token.tokenize text = .error failure →
      calculate clock reads text = ⟨.error failure, reads⟩) ∧
    (∀ text, Token.tokenize text = .ok tokens →
      calculate clock reads text = calculateTokens clock reads tokens) ∧
    (∀ (other : Clock) (start : Nat),
      calculateTokens other start (sampled clock reads tokens) =
        ⟨(calculateTokens clock reads tokens).result, start⟩) ∧
    (¬Token.Writable tokens →
      calculateTokens clock reads tokens = ⟨.error .numeralTooLong, reads⟩) ∧
    (Token.Writable tokens → ∃ ordered, ReversePolish.ofInfix tokens = .ok ordered ∧
      calculateTokens clock reads tokens = Evaluation.evaluate clock reads ordered ∧
      Evaluation.ReadsInOrder clock reads tokens ordered) := by
  refine ⟨?_, fun text scanned => calculate_of_tokenize scanned clock reads,
    fun other start => calculateTokens_sampled clock other tokens reads start, ?_, ?_⟩
  · intro text failure failed
    rw [calculate, failed]
  · intro unwritable
    rw [calculateTokens, ReversePolish.ofInfix_eq_error known unwritable]
  · intro writable
    obtain ⟨ordered, converted⟩ := ReversePolish.exists_ofInfix known writable
    exact ⟨ordered, converted, calculateTokens_of_ofInfix converted clock reads,
      Evaluation.readsInOrder converted clock reads⟩

/-- The time between two readings, with a parenthesis left open. -/
def elapsedTokens : List Token := [.now, .ofOperator .subtract, .leftParenthesis, .now]

theorem clock_read_in_order_elapsedTokens :
    (Token.Known elapsedTokens ∧
      ∃ ordered, ReversePolish.ofInfix elapsedTokens = .ok ordered ∧
        Evaluation.ReadsInOrder (fun count => if count = 0 then .latest else .earliest) 0
          elapsedTokens ordered) ∧
    Token.Known ReversePolish.overlongDifference ∧
      calculateTokens (fun _ => .latest) 0 ReversePolish.overlongDifference =
        ⟨.error .numeralTooLong, 0⟩ := by
  have known : Token.Known elapsedTokens := by decide
  have overlongKnown : Token.Known ReversePolish.overlongDifference := by decide
  obtain ⟨-, -, -, -, evaluated⟩ :=
    clock_read_in_order known (fun count => if count = 0 then .latest else .earliest) 0
  obtain ⟨-, -, -, unread, -⟩ := clock_read_in_order overlongKnown (fun _ => .latest) 0
  obtain ⟨ordered, converted, -, inOrder⟩ := evaluated (by decide)
  have unwritable : ¬Token.Writable ReversePolish.overlongDifference :=
    ReversePolish.not_writable_of_overlongSeconds (by simp [ReversePolish.overlongDifference])
  exact ⟨⟨known, ordered, converted, inOrder⟩, overlongKnown, unread unwritable⟩

end Calculator

end DateCalculator
