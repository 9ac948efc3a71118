import DateCalculator.Evaluation

/-!
Operator trees, their post-order and their meaning. A tree is determined by its post-order, so a
token list in reverse Polish order has one reading at most.
-/

namespace DateCalculator

inductive OperatorTree where
  | literal (value : Value)
  | now
  | negation (operand : OperatorTree)
  | binary (symbol : String) (left right : OperatorTree)

def Outcome.andThen (outcome : Outcome) (next : Value → Nat → Outcome) : Outcome :=
  match outcome.result with
  | .ok value => next value outcome.reads
  | .error failure => ⟨.error failure, outcome.reads⟩

@[simp] theorem Outcome.andThen_ok (value : Value) (reads : Nat) (next : Value → Nat → Outcome) :
    Outcome.andThen ⟨.ok value, reads⟩ next = next value reads := rfl

@[simp] theorem Outcome.andThen_error (failure : Failure) (reads : Nat)
    (next : Value → Nat → Outcome) :
    Outcome.andThen ⟨.error failure, reads⟩ next = ⟨.error failure, reads⟩ := rfl

theorem Outcome.andThen_assoc (outcome : Outcome) (first second : Value → Nat → Outcome) :
    (outcome.andThen first).andThen second =
      outcome.andThen fun value reads => (first value reads).andThen second := by
  obtain ⟨result, reads⟩ := outcome
  cases result <;> rfl

namespace OperatorTree

def postorder : OperatorTree → List Token
  | literal value => [.literal value]
  | now => [.now]
  | negation operand => operand.postorder ++ [.unaryMinus]
  | binary symbol left right => left.postorder ++ right.postorder ++ [.operator symbol]

/-- The value of a tree: first the left subtree, then the right one, then the operator, up to the
first failure. Every `now` takes the next reading of the clock. -/
def meaning (clock : Clock) : OperatorTree → Nat → Outcome
  | literal value, reads => ⟨.ok value, reads⟩
  | now, reads => ⟨.ok (.dateTime (clock reads)), reads + 1⟩
  | negation operand, reads =>
      (operand.meaning clock reads).andThen fun value reads => ⟨Arithmetic.negate value, reads⟩
  | binary symbol left right, reads =>
      (left.meaning clock reads).andThen fun leftValue reads =>
        (right.meaning clock reads).andThen fun rightValue reads =>
          ⟨Arithmetic.apply symbol leftValue rightValue, reads⟩

def build : List Token → List OperatorTree → Option (List OperatorTree)
  | [], stack => some stack
  | .literal value :: tokens, stack => build tokens (.literal value :: stack)
  | .now :: tokens, stack => build tokens (.now :: stack)
  | .unaryMinus :: tokens, operand :: stack => build tokens (.negation operand :: stack)
  | .operator symbol :: tokens, right :: left :: stack =>
      build tokens (.binary symbol left right :: stack)
  | _, _ => none

theorem build_postorder_append (tree : OperatorTree) (tokens : List Token)
    (stack : List OperatorTree) :
    build (tree.postorder ++ tokens) stack = build tokens (tree :: stack) := by
  induction tree generalizing tokens stack with
  | literal value => rfl
  | now => rfl
  | negation operand ih =>
      rw [postorder, List.append_assoc, ih]
      rfl
  | binary symbol left right ihLeft ihRight =>
      rw [postorder, List.append_assoc, List.append_assoc, ihLeft, ihRight]
      rfl

theorem postorder_injective {first second : OperatorTree}
    (same : first.postorder = second.postorder) : first = second := by
  have firstBuilt := build_postorder_append first [] []
  have secondBuilt := build_postorder_append second [] []
  rw [same, secondBuilt] at firstBuilt
  simp only [build, Option.some.injEq, List.cons.injEq, and_true] at firstBuilt
  exact firstBuilt.symm

def postorders (stack : List OperatorTree) : List Token := stack.reverse.flatMap postorder

@[simp] theorem postorders_nil : postorders [] = [] := rfl

@[simp] theorem postorders_cons (tree : OperatorTree) (stack : List OperatorTree) :
    postorders (tree :: stack) = postorders stack ++ tree.postorder := by
  simp [postorders]

end OperatorTree

end DateCalculator
