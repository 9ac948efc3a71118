import DateCalculator.Proofs.Conservation
import DateCalculator.Proofs.Conversion

/-!
Parentheses that are left open or were never opened. Opening parentheses in front of an expression
and closing ones behind it do not change its order: those in front only lie at the bottom of the
stack, where unmatched closing parentheses use them up.
-/

namespace DateCalculator.ReversePolish

variable {stack padded : List Token}

/-- The same stack with some more opening parentheses at its bottom. -/
def Padded (stack padded : List Token) : Prop :=
  ∃ count, padded = stack ++ List.replicate count .leftParenthesis

theorem Padded.cons (more : Padded stack padded) (token : Token) :
    Padded (token :: stack) (token :: padded) := by
  obtain ⟨count, rfl⟩ := more
  exact ⟨count, rfl⟩

theorem Padded.withoutParentheses_eq (more : Padded stack padded) :
    withoutParentheses padded = withoutParentheses stack := by
  obtain ⟨count, rfl⟩ := more
  have nothing : withoutParentheses (List.replicate count .leftParenthesis) = [] := by
    simp [withoutParentheses, isParenthesis]
  rw [withoutParentheses_append, nothing, List.append_nil]

/-- Closing takes one of the added parentheses where the stack has none. -/
theorem Padded.close (more : Padded stack padded) :
    (close padded).1 = (close stack).1 ∧ Padded (close stack).2 (close padded).2 := by
  obtain ⟨count, rfl⟩ := more
  induction stack with
  | nil =>
      cases count with
      | zero => exact ⟨rfl, 0, rfl⟩
      | succ count => exact ⟨rfl, count, rfl⟩
  | cons top stack ih =>
      by_cases opened : top = .leftParenthesis
      · rw [opened]
        exact ⟨rfl, count, rfl⟩
      · rw [List.cons_append, close_cons opened, close_cons opened]
        exact ⟨congrArg (top :: ·) ih.1, ih.2⟩

theorem Padded.release (more : Padded stack padded) (rank : Nat) :
    (release rank padded).1 = (release rank stack).1 ∧
      Padded (release rank stack).2 (release rank padded).2 := by
  obtain ⟨count, rfl⟩ := more
  induction stack with
  | nil =>
      cases count with
      | zero => exact ⟨rfl, 0, rfl⟩
      | succ count => exact ⟨rfl, count + 1, rfl⟩
  | cons top stack ih =>
      by_cases opened : top = .leftParenthesis
      · rw [opened]
        exact ⟨rfl, count, rfl⟩
      · rw [List.cons_append, release_cons opened, release_cons opened]
        split
        · exact ⟨congrArg (top :: ·) ih.1, ih.2⟩
        · exact ⟨rfl, count, rfl⟩

/-- A stack never holds a closing parenthesis. -/
def Unclosing (stack : List Token) : Prop := .rightParenthesis ∉ stack

theorem Unclosing.cons {token : Token} (unclosing : Unclosing stack)
    (other : token ≠ .rightParenthesis) : Unclosing (token :: stack) :=
  List.not_mem_cons_of_ne_of_not_mem other.symm unclosing

theorem Unclosing.suffix {part : List Token} (unclosing : Unclosing stack)
    (inside : part <:+ stack) : Unclosing part :=
  fun member => unclosing (inside.subset member)

theorem Padded.unclosing (more : Padded stack padded) (unclosing : Unclosing stack) :
    Unclosing padded := by
  obtain ⟨count, rfl⟩ := more
  intro member
  rcases List.mem_append.mp member with inside | added
  · exact unclosing inside
  · exact Token.noConfusion (List.eq_of_mem_replicate added)

theorem withoutParentheses_closed (unclosing : Unclosing stack) :
    (close stack).1 ++ withoutParentheses (close stack).2 = withoutParentheses stack := by
  induction stack with
  | nil => rfl
  | cons top stack ih =>
      have later := ih (unclosing.suffix (List.suffix_cons top stack))
      cases top with
      | leftParenthesis => rfl
      | rightParenthesis => exact absurd List.mem_cons_self unclosing
      | literal | now | operator | unaryMinus => exact congrArg (List.cons _) later

theorem reorder_closings (unclosing : Unclosing stack) (count : Nat) :
    reorder (List.replicate count .rightParenthesis) stack = .ok (withoutParentheses stack) := by
  induction count generalizing stack with
  | zero => rfl
  | succ count ih =>
      rw [List.replicate_succ, reorder, ih (unclosing.suffix (close_suffix stack))]
      exact congrArg Except.ok (withoutParentheses_closed unclosing)

/-- Neither the added parentheses nor closing ones behind the tokens change the order. -/
theorem reorder_padded (unclosing : Unclosing stack) (more : Padded stack padded)
    (tokens : List Token) (closings : Nat) :
    reorder (tokens ++ List.replicate closings .rightParenthesis) padded =
      reorder tokens stack := by
  -- Both runs take the same step while their stacks stay apart by nothing but the padding.
  induction tokens generalizing stack padded with
  | nil =>
      rw [List.nil_append, reorder_closings (more.unclosing unclosing),
        more.withoutParentheses_eq]
      rfl
  | cons token tokens ih =>
      rw [List.cons_append]
      cases token with
      | literal | now => simp only [reorder, ih unclosing more]
      | leftParenthesis | unaryMinus =>
          rw [reorder, reorder]
          exact ih (unclosing.cons (by simp)) (more.cons _)
      | rightParenthesis =>
          have later := ih (unclosing.suffix (close_suffix stack)) more.close.2
          rw [reorder, reorder, more.close.1, later]
      | operator symbol =>
          simp only [reorder]
          cases rank? symbol with
          | none => rfl
          | some rank =>
              have kept : Unclosing (.operator symbol :: (release rank stack).2) :=
                (unclosing.suffix (release_suffix rank stack)).cons (by simp)
              have later := ih kept ((more.release rank).2.cons (.operator symbol))
              dsimp only
              rw [(more.release rank).1, later]

theorem reorder_openings (count : Nat) (tokens stack : List Token) :
    reorder (List.replicate count .leftParenthesis ++ tokens) stack =
      reorder tokens (List.replicate count .leftParenthesis ++ stack) := by
  induction count generalizing stack with
  | zero => rfl
  | succ count ih =>
      have pushed : List.replicate (count + 1) .leftParenthesis ++ stack =
          List.replicate count .leftParenthesis ++ .leftParenthesis :: stack := by
        rw [List.replicate_succ', List.append_assoc, List.singleton_append]
      rw [pushed, List.replicate_succ, List.cons_append, reorder, ih]

theorem ofInfix_enclosed (openings closings : Nat) (tokens : List Token) :
    ofInfix (List.replicate openings .leftParenthesis ++ tokens ++
      List.replicate closings .rightParenthesis) = ofInfix tokens := by
  have more : Padded [] (List.replicate openings .leftParenthesis) := ⟨openings, rfl⟩
  rw [ofInfix, ofInfix, List.append_assoc, reorder_openings, List.append_nil,
    reorder_padded List.not_mem_nil more tokens closings]

end DateCalculator.ReversePolish
