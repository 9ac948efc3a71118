import DateCalculator.Calculator
import DateCalculator.Proofs.RuleFailure
import DateCalculator.Proofs.Segmentation

/-!
Where failures are. What the scanner cannot read has a position, which moves with the place where
the scan begins. No failure of an evaluation has one.
-/

namespace DateCalculator

/-- The same failure, found so much further on. -/
def Failure.displaced (distance : Nat) : Failure → Failure
  | .lexical fault lexeme position => .lexical fault lexeme (position + distance)
  | failure => failure

def displaced {Result : Type} (distance : Nat) (result : Except Failure Result) :
    Except Failure Result :=
  result.mapError (Failure.displaced distance)

/-- Not a failure that has a position. -/
def Unplaced {Result : Type} (result : Except Failure Result) : Prop :=
  ∀ distance, displaced distance result = result

section Unplaced

variable {First Second : Type}

theorem displaced_map (distance : Nat) (result : Except Failure First) (change : First → Second) :
    displaced distance (result.map change) = (displaced distance result).map change := by
  cases result <;> rfl

theorem Unplaced.map {result : Except Failure First} (unplaced : Unplaced result)
    (change : First → Second) : Unplaced (result.map change) := by
  intro distance
  rw [displaced_map, unplaced distance]

theorem Unplaced.of_error {failure : Failure}
    (unplaced : Unplaced (.error failure : Except Failure First)) :
    Unplaced (.error failure : Except Failure Second) :=
  fun distance => congrArg Except.error (Except.error.inj (unplaced distance))

theorem Failure.OfRule.displaced_eq {failure : Failure} (ofRule : failure.OfRule)
    (distance : Nat) : failure.displaced distance = failure := by
  cases ofRule <;> rfl

theorem FailsInRule.unplaced {result : Except Failure First} (fails : FailsInRule result) :
    Unplaced result := by
  intro distance
  cases result with
  | ok value => rfl
  | error failure => exact congrArg Except.error ((fails failure rfl).displaced_eq distance)

end Unplaced

theorem Arithmetic.unplaced_apply (symbol : String) (left right : Value) :
    Unplaced (apply symbol left right) := by
  rcases apply_failsInRule_or symbol left right with fails | ⟨-, refused⟩
  · exact fails.unplaced
  · rw [refused]
    exact fun _ => rfl

namespace Evaluation

theorem unplaced_step (token : Token) (stack : List Value) : Unplaced (step token stack) := by
  fun_cases step token stack with
  | case2 operand stack => exact (Arithmetic.negate_failsInRule operand).unplaced.map _
  | case4 symbol right left stack => exact (Arithmetic.unplaced_apply symbol left right).map _
  | case1 | case3 | case5 | case6 => exact fun _ => rfl

theorem unplaced_result (stack : List Value) : Unplaced (result stack) := by
  fun_cases result stack <;> exact fun _ => rfl

theorem unplaced_reduce (clock : Clock) (tokens : List Token) (stack : List Value) (reads : Nat) :
    Unplaced (reduce clock tokens stack reads).result := by
  fun_induction reduce clock tokens stack reads with
  | case1 stack reads => exact unplaced_result stack
  | case2 tokens stack reads ih => exact ih
  | case3 token tokens stack reads other next stepped ih => exact ih
  | case4 token tokens stack reads other failure failed =>
      have unplaced := unplaced_step token stack
      rw [failed] at unplaced
      exact unplaced.of_error

end Evaluation

def Outcome.displaced (distance : Nat) (outcome : Outcome) : Outcome :=
  ⟨DateCalculator.displaced distance outcome.result, outcome.reads⟩

theorem Evaluation.displaced_evaluate (distance : Nat) (clock : Clock) (reads : Nat)
    (tokens : List Token) :
    (evaluate clock reads tokens).displaced distance = evaluate clock reads tokens := by
  unfold Outcome.displaced evaluate
  rw [unplaced_reduce clock tokens [] reads distance]

namespace Token

theorem clash?_displaced {before : Option Token} {token : Token} {failure : Failure}
    (clash : clash? before token = some failure) (distance : Nat) :
    failure.displaced distance = failure := by
  obtain ⟨left, -, rfl⟩ := exists_left_of_clash? clash
  rfl

/-- A scan that begins further on finds the same, further on. -/
theorem scan_displaced (rules : List Recognizer) (position distance : Nat) (before : Option Token)
    (text : List Char) :
    scan rules (position + distance) before text =
      displaced distance (scan rules position before text) := by
  fun_induction scan rules position before text with
  | case1 position before => exact scan.eq_1 ..
  | case2 position before first rest misreading misread => rw [scan, misread]; rfl
  | case3 position before first rest unclaimed => rw [scan, unclaimed]; rfl
  | case4 position before first rest found claimed failure clash =>
      rw [scan_of_claim claimed, clash]
      exact congrArg Except.error (clash?_displaced clash distance).symm
  | case5 position before first rest found claimed free later scanned ih
  | case6 position before first rest found claimed free later scanned ih =>
      rw [scan_of_claim claimed, free, Nat.add_right_comm, ih, scanned]
      rfl

end Token

end DateCalculator
