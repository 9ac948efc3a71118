import DateCalculator.Proofs.TokenSequence
import DateCalculator.ReversePolish

/-!
What the conversion to reverse Polish order keeps. Tokens with known operators always have such an
order, and it holds the same tokens in another order, without the parentheses. So whether it can be
written out does not depend on the order, and it comes out exactly if it can.
-/

namespace DateCalculator.ReversePolish

open scoped List

def withoutParentheses (tokens : List Token) : List Token :=
  tokens.filter fun token => !isParenthesis token

@[simp] theorem withoutParentheses_append (first second : List Token) :
    withoutParentheses (first ++ second) =
      withoutParentheses first ++ withoutParentheses second :=
  List.filter_append ..

theorem withoutParentheses_cons {token : Token} (kept : isParenthesis token = false)
    (tokens : List Token) :
    withoutParentheses (token :: tokens) = token :: withoutParentheses tokens :=
  List.filter_cons_of_pos (by simp [kept])

theorem filter_withoutParentheses {kind : Token → Bool}
    (other : ∀ token, isParenthesis token = true → kind token = false) (tokens : List Token) :
    (withoutParentheses tokens).filter kind = tokens.filter kind := by
  rw [withoutParentheses, List.filter_filter]
  refine List.filter_congr fun token _ => ?_
  cases parenthesis : isParenthesis token with
  | true => simp [other token parenthesis]
  | false => simp

theorem countP_withoutParentheses {kind : Token → Bool}
    (other : ∀ token, isParenthesis token = true → kind token = false) (tokens : List Token) :
    (withoutParentheses tokens).countP kind = tokens.countP kind := by
  rw [List.countP_eq_length_filter, List.countP_eq_length_filter,
    filter_withoutParentheses other]

theorem append_release (rank : Nat) (stack : List Token) :
    (release rank stack).1 ++ (release rank stack).2 = stack := by
  fun_induction release rank stack with
  | case1 => rfl
  | case2 => rfl
  | case3 top stack _ _ _ _ split ih =>
      rw [split] at ih
      rw [List.cons_append, ih]
  | case4 => rfl

theorem withoutParentheses_close (stack : List Token) :
    withoutParentheses (close stack).1 ++ withoutParentheses (close stack).2 =
      withoutParentheses stack := by
  fun_induction close stack with
  | case1 => rfl
  | case2 stack => rfl
  | case3 top stack _ _ _ split ih =>
      rw [split] at ih
      rw [← List.singleton_append, ← List.singleton_append (l := stack),
        withoutParentheses_append, withoutParentheses_append, List.append_assoc, ih]

theorem close_subset (stack : List Token) : (close stack).1 ⊆ stack := by
  fun_induction close stack with
  | case1 => exact List.nil_subset []
  | case2 stack => exact List.nil_subset _
  | case3 top stack _ _ _ split ih =>
      rw [split] at ih
      exact List.cons_subset_cons top ih

theorem release_subset (rank : Nat) (stack : List Token) : (release rank stack).1 ⊆ stack := by
  intro token member
  rw [← append_release rank stack]
  exact List.mem_append_left _ member

theorem close_suffix (stack : List Token) : (close stack).2 <:+ stack := by
  fun_induction close stack with
  | case1 => exact List.suffix_rfl
  | case2 stack => exact List.suffix_cons ..
  | case3 top stack _ _ _ split ih =>
      rw [split] at ih
      exact ih.trans (List.suffix_cons ..)

theorem release_suffix (rank : Nat) (stack : List Token) : (release rank stack).2 <:+ stack :=
  ⟨(release rank stack).1, append_release rank stack⟩

theorem map_eq_ok {result : Except Failure (List Token)} {change : List Token → List Token}
    {ordered : List Token} (mapped : result.map change = .ok ordered) :
    ∃ rest, result = .ok rest ∧ change rest = ordered := by
  cases result with
  | error failure => contradiction
  | ok rest =>
      cases mapped
      exact ⟨rest, rfl, rfl⟩

/-- Each token comes out as often as it went in, whatever waits on the stack. -/
theorem reorder_perm {tokens stack ordered : List Token}
    (reordered : reorder tokens stack = .ok ordered) :
    withoutParentheses ordered ~ withoutParentheses tokens ++ withoutParentheses stack := by
  fun_induction reorder tokens stack generalizing ordered with
  | case1 stack =>
      cases reordered
      simp [withoutParentheses]
  | case2 tokens stack ih => exact ih reordered
  | case3 tokens stack ih =>
      obtain ⟨rest, found, rfl⟩ := map_eq_ok reordered
      rw [withoutParentheses_append, ← withoutParentheses_close stack]
      exact ((ih found).append_left _).trans (List.perm_append_comm_assoc ..)
  | case4 tokens stack ih =>
      exact (ih reordered).trans List.perm_middle
  | case5 => contradiction
  | case6 symbol tokens stack rank ranked released left split ih =>
      obtain ⟨rest, found, rfl⟩ := map_eq_ok reordered
      have parts : released ++ left = stack := by
        have whole := append_release rank stack
        rwa [split] at whole
      subst parts
      have operator : ∀ others, withoutParentheses (.operator symbol :: others) =
          .operator symbol :: withoutParentheses others := withoutParentheses_cons rfl
      have counted := ih found
      rw [operator] at counted
      rw [operator, withoutParentheses_append, withoutParentheses_append, List.cons_append]
      calc withoutParentheses released ++ withoutParentheses rest
        _ ~ withoutParentheses released ++
              .operator symbol :: (withoutParentheses tokens ++ withoutParentheses left) :=
            (counted.trans List.perm_middle).append_left _
        _ ~ .operator symbol :: (withoutParentheses released ++
              (withoutParentheses tokens ++ withoutParentheses left)) :=
            List.perm_middle
        _ ~ .operator symbol :: (withoutParentheses tokens ++
              (withoutParentheses released ++ withoutParentheses left)) :=
            (List.perm_append_comm_assoc ..).cons _
  | case7 operand tokens stack opened closed negated operated ih =>
      obtain ⟨rest, found, rfl⟩ := map_eq_ok reordered
      have kept : isParenthesis operand = false := by
        cases operand <;> trivial
      rw [withoutParentheses_cons kept, withoutParentheses_cons kept]
      exact (ih found).cons operand

theorem reorder_ok_of_known {tokens : List Token} (known : Token.Known tokens)
    (stack : List Token) : ∃ ordered, reorder tokens stack = .ok ordered := by
  fun_induction reorder tokens stack with
  | case1 stack => exact ⟨_, rfl⟩
  | case2 tokens stack ih | case4 tokens stack ih => exact ih known.tail
  | case3 tokens stack ih | case7 operand tokens stack _ _ _ _ ih =>
      obtain ⟨ordered, found⟩ := ih known.tail
      exact ⟨_, by rw [found]; rfl⟩
  | case5 symbol tokens stack unranked =>
      obtain ⟨operator, rfl⟩ := known symbol List.mem_cons_self
      cases operator <;> contradiction
  | case6 symbol tokens stack rank ranked released left split ih =>
      obtain ⟨ordered, found⟩ := ih known.tail
      exact ⟨_, by rw [found]; rfl⟩

/-- Parentheses always have a text. -/
theorem writable_withoutParentheses {tokens : List Token} :
    Token.Writable (withoutParentheses tokens) ↔ Token.Writable tokens := by
  constructor
  · intro writable token member
    by_cases parenthesis : isParenthesis token = true
    · cases token <;> first | trivial | contradiction
    · exact writable token (List.mem_filter.mpr ⟨member, by simpa using parenthesis⟩)
  · intro writable token member
    exact writable token (List.mem_filter.mp member).1

theorem writable_of_reorder {tokens ordered : List Token}
    (reordered : reorder tokens [] = .ok ordered) :
    Token.Writable ordered ↔ Token.Writable tokens := by
  have permuted := reorder_perm reordered
  rw [show withoutParentheses [] = [] from rfl, List.append_nil] at permuted
  rw [← writable_withoutParentheses, ← @writable_withoutParentheses tokens]
  simp only [Token.Writable, permuted.mem_iff]

/-- The order comes out if it can be written out. -/
theorem ofInfix_of_reorder {tokens ordered : List Token}
    (reordered : reorder tokens [] = .ok ordered) :
    ofInfix tokens = if Token.Writable tokens then .ok ordered else .error .numeralTooLong := by
  simp only [ofInfix, reordered, Except.bind, writable_of_reorder reordered]

theorem ofInfix_eq_ok_iff {tokens ordered : List Token} :
    ofInfix tokens = .ok ordered ↔ reorder tokens [] = .ok ordered ∧ Token.Writable tokens := by
  cases reordered : reorder tokens [] with
  | error failure => simp [ofInfix, reordered, Except.bind]
  | ok found =>
      rw [ofInfix_of_reorder reordered]
      split <;> simp_all

theorem exists_ofInfix {tokens : List Token} (known : Token.Known tokens)
    (writable : Token.Writable tokens) : ∃ ordered, ofInfix tokens = .ok ordered := by
  obtain ⟨ordered, reordered⟩ := reorder_ok_of_known known []
  exact ⟨ordered, ofInfix_eq_ok_iff.mpr ⟨reordered, writable⟩⟩

theorem ofInfix_eq_error {tokens : List Token} (known : Token.Known tokens)
    (unwritable : ¬Token.Writable tokens) : ofInfix tokens = .error .numeralTooLong := by
  obtain ⟨ordered, reordered⟩ := reorder_ok_of_known known []
  rw [ofInfix_of_reorder reordered, if_neg unwritable]

/-- As many seconds as can be written out, and one more in milliseconds. -/
def overlongSeconds : Duration := .ofAmounts false fun
  | .second => Nat.pow 10 Numeral.digitLimit - 1
  | .millisecond => 1000
  | _ => 0

def overlongDifference : List Token :=
  [.now, .ofOperator .subtract, .literal (.duration overlongSeconds)]

theorem not_writable_of_overlongSeconds {tokens : List Token}
    (member : .literal (.duration overlongSeconds) ∈ tokens) : ¬Token.Writable tokens := by
  have unprintable : ¬overlongSeconds.Printable := by decide +kernel
  exact fun writable => unprintable (writable _ member)

theorem ofInfix_perm {tokens ordered : List Token} (converted : ofInfix tokens = .ok ordered) :
    withoutParentheses ordered ~ withoutParentheses tokens := by
  simpa [withoutParentheses] using reorder_perm (ofInfix_eq_ok_iff.mp converted).1

theorem countP_ofInfix {kind : Token → Bool} {tokens ordered : List Token}
    (other : ∀ token, isParenthesis token = true → kind token = false)
    (reordered : ofInfix tokens = .ok ordered) : ordered.countP kind = tokens.countP kind := by
  rw [← countP_withoutParentheses other, ← countP_withoutParentheses other tokens]
  exact (ofInfix_perm reordered).countP_eq kind

end DateCalculator.ReversePolish
