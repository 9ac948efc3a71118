import DateCalculator.Proofs.CalendarRange
import DateCalculator.Proofs.EvaluationRun
import DateCalculator.Proofs.OperatorTree

/-!
Evaluation over a stack against the meaning of operator trees. The post-order of a tree has the
meaning of the tree, and every token list that has a value is the post-order of one tree. Only a
value without a text makes a difference: the evaluation refuses it.
-/

namespace DateCalculator

namespace Evaluation

theorem reduce_unaryMinus (clock : Clock) (operand : Value) (tokens : List Token)
    (stack : List Value) (reads : Nat) :
    reduce clock (.unaryMinus :: tokens) (operand :: stack) reads =
      Outcome.andThen ⟨Arithmetic.negate operand, reads⟩ fun value reads =>
        reduce clock tokens (value :: stack) reads := by
  simp only [reduce, step]
  cases Arithmetic.negate operand <;> rfl

theorem reduce_operator (clock : Clock) (symbol : String) (left right : Value)
    (tokens : List Token) (stack : List Value) (reads : Nat) :
    reduce clock (.operator symbol :: tokens) (right :: left :: stack) reads =
      Outcome.andThen ⟨Arithmetic.apply symbol left right, reads⟩ fun value reads =>
        reduce clock tokens (value :: stack) reads := by
  simp only [reduce, step]
  cases Arithmetic.apply symbol left right <;> rfl

theorem reduce_postorder_append (clock : Clock) (tree : OperatorTree) (tokens : List Token)
    (stack : List Value) (reads : Nat) :
    reduce clock (tree.postorder ++ tokens) stack reads =
      (tree.meaning clock reads).andThen fun value reads =>
        reduce clock tokens (value :: stack) reads := by
  induction tree generalizing tokens stack reads with
  | literal value => rfl
  | now => rfl
  | negation operand ih =>
      rw [OperatorTree.postorder, List.append_assoc, ih, OperatorTree.meaning,
        Outcome.andThen_assoc]
      simp only [List.singleton_append, reduce_unaryMinus]
  | binary symbol left right ihLeft ihRight =>
      rw [OperatorTree.postorder, List.append_assoc, List.append_assoc, ihLeft,
        OperatorTree.meaning, Outcome.andThen_assoc]
      simp only [ihRight, Outcome.andThen_assoc, List.singleton_append, reduce_operator]

end Evaluation

namespace OperatorTree

open Evaluation

variable {clock : Clock} {start : Nat}

/-- The trees of a stack, whose top comes first, mean the values beside them when they are evaluated
from the bottom up. -/
inductive Denotes (clock : Clock) (start : Nat) : List OperatorTree → List Value → Nat → Prop
  | nil : Denotes clock start [] [] start
  | cons {tree trees value values middle last} : Denotes clock start trees values middle →
      tree.meaning clock middle = ⟨.ok value, last⟩ →
      Denotes clock start (tree :: trees) (value :: values) last

theorem Denotes.unaryMinus {trees : List OperatorTree} {operand value : Value}
    {values : List Value} {reads : Nat}
    (denoted : Denotes clock start trees (operand :: values) reads)
    (negated : Arithmetic.negate operand = .ok value) :
    ∃ grown, Denotes clock start grown (value :: values) reads ∧
      postorders grown = postorders trees ++ [.unaryMinus] := by
  cases denoted with
  | @cons tree trees _ _ middle _ below meant =>
      have whole : (negation tree).meaning clock middle = ⟨.ok value, reads⟩ := by
        rw [meaning, meant, Outcome.andThen_ok, negated]
      exact ⟨negation tree :: trees, .cons below whole, by simp [postorder]⟩

theorem Denotes.operator {trees : List OperatorTree} {symbol : String} {left right value : Value}
    {values : List Value} {reads : Nat}
    (denoted : Denotes clock start trees (right :: left :: values) reads)
    (applied : Arithmetic.apply symbol left right = .ok value) :
    ∃ grown, Denotes clock start grown (value :: values) reads ∧
      postorders grown = postorders trees ++ [.operator symbol] := by
  cases denoted with
  | @cons rightTree _ _ _ _ _ belowRight rightMeant =>
      cases belowRight with
      | @cons leftTree trees _ _ middle _ below leftMeant =>
          have whole : (binary symbol leftTree rightTree).meaning clock middle =
              ⟨.ok value, reads⟩ := by
            rw [meaning, leftMeant, Outcome.andThen_ok, rightMeant, Outcome.andThen_ok, applied]
          exact ⟨binary symbol leftTree rightTree :: trees, .cons below whole, by simp [postorder]⟩

theorem Denotes.step {token : Token} {trees : List OperatorTree} {values next : List Value}
    {reads : Nat} (denoted : Denotes clock start trees values reads)
    (stepped : step token values = .ok next) :
    ∃ grown, Denotes clock start grown next reads ∧
      postorders grown = postorders trees ++ [token] := by
  cases token with
  | literal value =>
      simp only [Evaluation.step, Except.ok.injEq] at stepped
      subst next
      exact ⟨literal value :: trees, .cons denoted rfl, by simp [postorder]⟩
  | unaryMinus =>
      cases values with
      | nil => simp [Evaluation.step] at stepped
      | cons operand values =>
          cases negated : Arithmetic.negate operand with
          | error failure => simp [Evaluation.step, negated, Except.map] at stepped
          | ok value =>
              simp only [Evaluation.step, negated, Except.map, Except.ok.injEq] at stepped
              subst next
              exact denoted.unaryMinus negated
  | operator symbol =>
      rcases values with _ | ⟨right, _ | ⟨left, values⟩⟩
      · simp [Evaluation.step] at stepped
      · simp [Evaluation.step] at stepped
      · cases applied : Arithmetic.apply symbol left right with
        | error failure => simp [Evaluation.step, applied, Except.map] at stepped
        | ok value =>
            simp only [Evaluation.step, applied, Except.map, Except.ok.injEq] at stepped
            subst next
            exact denoted.operator applied
  | now | leftParenthesis | rightParenthesis => simp [Evaluation.step] at stepped

theorem Denotes.reaches {tokens : List Token} {trees : List OperatorTree}
    {values last : List Value} {reads count : Nat}
    (denoted : Denotes clock start trees values reads)
    (reached : Reaches clock tokens values reads last count) :
    ∃ grown, Denotes clock start grown last count ∧
      postorders grown = postorders trees ++ tokens := by
  induction reached generalizing trees with
  | done => exact ⟨trees, denoted, by simp⟩
  | @now tokens stack reads _ _ _ ih =>
      have pushed : Denotes clock start (OperatorTree.now :: trees)
          (.dateTime (clock reads) :: stack) (reads + 1) := .cons denoted rfl
      obtain ⟨grown, denotes, tokens⟩ := ih pushed
      exact ⟨grown, denotes, by simpa [postorder] using tokens⟩
  | step stepped _ ih =>
      obtain ⟨grown, denotes, tokens⟩ := denoted.step stepped
      obtain ⟨last, denotesLast, tokensLast⟩ := ih denotes
      exact ⟨last, denotesLast, by rw [tokensLast, tokens, List.append_assoc]; rfl⟩

end OperatorTree

namespace Evaluation

open OperatorTree

theorem result_eq_ok {stack : List Value} {value : Value} (valued : result stack = .ok value) :
    stack = [value] ∧ value.Printable := by
  rcases stack with _ | ⟨last, _ | ⟨below, stack⟩⟩
  · simp [result] at valued
  · simp only [result] at valued
    split at valued
    · rename_i printable
      cases valued
      exact ⟨rfl, printable⟩
    · contradiction
  · simp [result] at valued

theorem result_singleton {value : Value} (printable : value.Printable) :
    result [value] = .ok value := if_pos printable

theorem result_unprintable {value : Value} (unprintable : ¬value.Printable) :
    result [value] = .error .numeralTooLong := if_neg unprintable

theorem evaluate_postorder (clock : Clock) (reads : Nat) (tree : OperatorTree) :
    evaluate clock reads tree.postorder =
      (tree.meaning clock reads).andThen fun value reads => ⟨result [value], reads⟩ := by
  have whole := reduce_postorder_append clock tree [] [] reads
  rw [List.append_nil] at whole
  exact whole

theorem exists_tree_of_evaluate {clock : Clock} {start : Nat} {tokens : List Token}
    {value : Value} (valued : (evaluate clock start tokens).result = .ok value) :
    ∃ tree : OperatorTree, tree.postorder = tokens ∧
      tree.meaning clock start = evaluate clock start tokens := by
  generalize outcomeEq : evaluate clock start tokens = outcome at valued
  cases reduce_eq_iff_ends.mp outcomeEq with
  | stopped => contradiction
  | @finished _ _ _ last _ reached =>
      obtain ⟨rfl, printable⟩ := result_eq_ok valued
      have begun : Denotes clock start [] [] start := .nil
      obtain ⟨grown, denotes, grownTokens⟩ := begun.reaches reached
      cases denotes with
      | @cons tree _ _ _ _ _ below meant =>
          cases below with
          | nil =>
              refine ⟨tree, by simpa using grownTokens, ?_⟩
              rw [result_singleton printable, meant]

/-- Evaluating the post-order of a tree has the outcome of its meaning, value or failure with as
many readings of the clock, exactly if that is no value without a text; otherwise it fails after as
many readings. Conversely, a token list with a value is the post-order of exactly one tree, whose
meaning has the same outcome. -/
theorem evaluate_refines_meaning (clock : Clock) (reads : Nat) :
    (∀ tree : OperatorTree,
      (evaluate clock reads tree.postorder = tree.meaning clock reads ↔
        ∀ value, (tree.meaning clock reads).result = .ok value → value.Printable) ∧
      ∀ value, (tree.meaning clock reads).result = .ok value → ¬value.Printable →
        evaluate clock reads tree.postorder =
          ⟨.error .numeralTooLong, (tree.meaning clock reads).reads⟩) ∧
    ∀ tokens value, (evaluate clock reads tokens).result = .ok value →
      ∃ tree : OperatorTree, tree.postorder = tokens ∧
        tree.meaning clock reads = evaluate clock reads tokens ∧
        ∀ other : OperatorTree, other.postorder = tokens → other = tree := by
  refine ⟨fun tree => ?_, fun tokens value valued => ?_⟩
  · rw [evaluate_postorder]
    generalize tree.meaning clock reads = outcome
    obtain ⟨result, count⟩ := outcome
    cases result with
    | error failure => simp
    | ok value =>
        by_cases printable : value.Printable
        · simp [result_singleton printable, printable]
        · simp [result_unprintable printable, printable]
  · obtain ⟨tree, ordered, meant⟩ := exists_tree_of_evaluate valued
    exact ⟨tree, ordered, meant, fun other same => postorder_injective (same.trans ordered.symm)⟩

/-- The longest number of years that can be written out. Its negation counts milliseconds and is too
long for that. -/
def longestYears : Duration := .ofAmounts false fun
  | .year => Nat.pow 10 Numeral.digitLimit - 1
  | _ => 0

theorem unprintable_negate_longestYears : ¬(Value.duration longestYears.negate).Printable := by
  decide +kernel

theorem evaluate_negated_longestYears :
    (meaning (fun _ => .earliest) (.negation (.literal (.duration longestYears))) 0).result =
        .ok (.duration longestYears.negate) ∧
      evaluate (fun _ => .earliest) 0 [.literal (.duration longestYears), .unaryMinus] =
        ⟨.error .numeralTooLong, 0⟩ :=
  ⟨rfl, ((evaluate_refines_meaning (fun _ => .earliest) 0).1
    (.negation (.literal (.duration longestYears)))).2 _ rfl unprintable_negate_longestYears⟩

theorem not_evaluate_postorder_eq_meaning :
    ¬∀ (clock : Clock) (reads : Nat) (tree : OperatorTree),
      evaluate clock reads tree.postorder = tree.meaning clock reads := by
  intro same
  have equal := same (fun _ => .earliest) 0 (.negation (.literal (.duration longestYears)))
  rw [evaluate_postorder] at equal
  simp [meaning, Arithmetic.negate, result_unprintable unprintable_negate_longestYears] at equal

end Evaluation

end DateCalculator
