import DateCalculator.Evaluation

/-!
Runs of the evaluation. A run over some tokens leads from one stack to another; an evaluation either
runs over all its tokens or stops at the first one that its stack refuses.
-/

namespace DateCalculator.Evaluation

inductive Reaches (clock : Clock) : List Token → List Value → Nat → List Value → Nat → Prop
  | done {stack reads} : Reaches clock [] stack reads stack reads
  | now {tokens stack reads last count} :
      Reaches clock tokens (.dateTime (clock reads) :: stack) (reads + 1) last count →
      Reaches clock (.now :: tokens) stack reads last count
  | step {token tokens stack next reads last count} : step token stack = .ok next →
      Reaches clock tokens next reads last count →
      Reaches clock (token :: tokens) stack reads last count

variable {clock : Clock}

theorem ne_now_of_step {token : Token} {stack next : List Value}
    (stepped : step token stack = .ok next) : token ≠ .now := by
  rintro rfl
  simp [step] at stepped

theorem reduce_cons {token : Token} (other : token ≠ .now) (tokens : List Token)
    (stack : List Value) (reads : Nat) :
    reduce clock (token :: tokens) stack reads =
      match step token stack with
      | .ok next => reduce clock tokens next reads
      | .error failure => ⟨.error failure, reads⟩ := by
  cases token <;> first | rfl | contradiction

theorem Reaches.reduce_append {before : List Token} {stack last : List Value} {reads count : Nat}
    (reached : Reaches clock before stack reads last count) (after : List Token) :
    reduce clock (before ++ after) stack reads = reduce clock after last count := by
  induction reached with
  | done => rfl
  | now _ ih => exact ih
  | step stepped _ ih =>
      rw [List.cons_append, reduce_cons (ne_now_of_step stepped), stepped]
      exact ih

/-- How an evaluation ends: with the stack that a run over all tokens leaves, or at a token that
fails on the stack reached before it. -/
inductive Ends (clock : Clock) : List Token → List Value → Nat → Outcome → Prop
  | finished {tokens stack reads last count} : Reaches clock tokens stack reads last count →
      Ends clock tokens stack reads ⟨result last, count⟩
  | stopped {before token stack reads last count failure} (after : List Token) :
      Reaches clock before stack reads last count → token ≠ .now →
      step token last = .error failure →
      Ends clock (before ++ token :: after) stack reads ⟨.error failure, count⟩

theorem Ends.now {tokens : List Token} {stack : List Value} {reads : Nat} {outcome : Outcome}
    (ended : Ends clock tokens (.dateTime (clock reads) :: stack) (reads + 1) outcome) :
    Ends clock (.now :: tokens) stack reads outcome := by
  cases ended with
  | finished reached => exact .finished (.now reached)
  | stopped after reached other failed =>
      rw [← List.cons_append]
      exact .stopped after (.now reached) other failed

theorem Ends.step {token : Token} {tokens : List Token} {stack next : List Value} {reads : Nat}
    {outcome : Outcome} (stepped : step token stack = .ok next)
    (ended : Ends clock tokens next reads outcome) :
    Ends clock (token :: tokens) stack reads outcome := by
  cases ended with
  | finished reached => exact .finished (.step stepped reached)
  | stopped after reached other failed =>
      rw [← List.cons_append]
      exact .stopped after (.step stepped reached) other failed

theorem ends_reduce (clock : Clock) (tokens : List Token) (stack : List Value) (reads : Nat) :
    Ends clock tokens stack reads (reduce clock tokens stack reads) := by
  induction tokens generalizing stack reads with
  | nil => exact .finished .done
  | cons token tokens ih =>
      by_cases clocked : token = .now
      · subst token
        exact .now (ih (.dateTime (clock reads) :: stack) (reads + 1))
      · rw [reduce_cons clocked]
        cases stepped : Evaluation.step token stack with
        | ok next => exact .step stepped (ih next reads)
        | error failure =>
            have start : Reaches clock [] stack reads stack reads := .done
            exact .stopped tokens start clocked stepped

theorem reduce_eq_iff_ends {tokens : List Token} {stack : List Value} {reads : Nat}
    {outcome : Outcome} :
    reduce clock tokens stack reads = outcome ↔ Ends clock tokens stack reads outcome := by
  constructor
  · rintro rfl
    exact ends_reduce clock tokens stack reads
  · intro ended
    cases ended with
    | finished reached =>
        have whole := reached.reduce_append []
        rw [List.append_nil] at whole
        exact whole
    | stopped after reached other failed =>
        rw [reached.reduce_append, reduce_cons other, failed]

/-- A run reads the clock once for every `now` that it passes. -/
theorem Reaches.count_eq {tokens : List Token} {stack last : List Value} {reads count : Nat}
    (reached : Reaches clock tokens stack reads last count) :
    count = reads + tokens.count .now := by
  induction reached with
  | done => simp
  | now _ ih =>
      rw [ih, List.count_cons_self]
      omega
  | step stepped _ ih => rw [ih, List.count_cons_of_ne (ne_now_of_step stepped)]

/-- Where an evaluation fails: at the token at this position, or behind the last one. -/
inductive FailsAt (clock : Clock) (reads : Nat) (tokens : List Token) : Nat → Failure → Prop
  | token {before token after stack count failure} : before ++ token :: after = tokens →
      token ≠ .now → Reaches clock before [] reads stack count →
      step token stack = .error failure → FailsAt clock reads tokens before.length failure
  | last {stack count failure} : Reaches clock tokens [] reads stack count →
      result stack = .error failure → FailsAt clock reads tokens tokens.length failure

theorem FailsAt.evaluate_eq {reads position : Nat} {tokens : List Token} {failure : Failure}
    (failed : FailsAt clock reads tokens position failure) :
    evaluate clock reads tokens =
      ⟨.error failure, reads + (tokens.take position).count .now⟩ := by
  cases failed with
  | @token _ _ after _ _ _ whole other reached failed =>
      have stopped := Ends.stopped after reached other failed
      rw [evaluate, ← whole, reduce_eq_iff_ends.mpr stopped, List.take_left, reached.count_eq]
  | last reached failed =>
      have finished := Ends.finished reached
      rw [evaluate, reduce_eq_iff_ends.mpr finished, failed, List.take_length, reached.count_eq]

theorem exists_failsAt {reads : Nat} {tokens : List Token} {failure : Failure}
    (failed : (evaluate clock reads tokens).result = .error failure) :
    ∃ position, FailsAt clock reads tokens position failure := by
  generalize outcomeEq : evaluate clock reads tokens = outcome at failed
  cases reduce_eq_iff_ends.mp outcomeEq with
  | finished reached => exact ⟨_, .last reached failed⟩
  | stopped after reached other stopped =>
      cases failed
      exact ⟨_, .token rfl other reached stopped⟩

end DateCalculator.Evaluation
