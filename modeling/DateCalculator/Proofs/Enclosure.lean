import DateCalculator.Proofs.Derivability
import DateCalculator.Proofs.FailurePosition
import DateCalculator.Proofs.FaithfulSegmentation
import DateCalculator.Proofs.PrintableTokens
import DateCalculator.Proofs.UnmatchedParentheses

/-!
Expressions between parentheses. Whatever the text, opening parentheses in front of it and closing
ones behind it become tokens of their own and leave the tokens between them as they were, so that
the expression has the outcome it has without them.
-/

namespace DateCalculator

namespace Token

theorem firstMatch?_of_symbol {symbol : Char} {before : Option Token} {token : Token}
    (known : ofSymbol? before symbol = some token) (suffix : List Char) :
    firstMatch? recognizers before (symbol :: suffix) =
      .ok (some ⟨token, [symbol], suffix, List.cons_ne_nil _ _, rfl⟩) := by
  have listed : isSymbol symbol = true := by rw [← isSome_ofSymbol? before, known]; rfl
  have splits : symbols.split? (symbol :: suffix) = some ([symbol], suffix) := if_pos listed
  have reads : symbols.reading before [symbol] = .ok token := by simp [symbols, known]
  obtain ⟨date, now, duration, -⟩ := initials_of_isSymbol listed
  rw [recognizers_eq, firstMatch?_eq_some_iff]
  refine ⟨[dates.rule, nows.rule, durations.rule], symbols.rule, [numbers.rule], rfl, ?_,
    Category.rule_eq_some_iff.mpr ⟨splits, reads⟩⟩
  simp only [List.forall_mem_cons, List.not_mem_nil, false_imp_iff, implies_true, and_true]
  exact ⟨Category.rule_of_none (Category.split?_eq_none date suffix) before,
    Category.rule_of_none (Category.split?_eq_none now suffix) before,
    Category.rule_of_none (Category.split?_eq_none duration suffix) before⟩

theorem clash?_of_not_operand {token : Token} (joining : token.isOperand = false)
    (before : Option Token) : clash? before token = none := by
  refine clash?_eq_none fun left _ operands => ?_
  rw [joining] at operands
  exact Bool.noConfusion operands.2

theorem scan_symbol {symbol : Char} {before : Option Token} {token : Token}
    (known : ofSymbol? before symbol = some token) (joining : token.isOperand = false)
    (position : Nat) (text : List Char) :
    scan recognizers position before (symbol :: text) =
      (scan recognizers (position + 1) (some token) text).map (token :: ·) := by
  rw [scan_of_claim (firstMatch?_of_symbol known text), clash?_of_not_operand joining]
  rfl

theorem Match.after_of_atStart {before : Option Token} (start : AtStart before)
    {text : List Char} (found : Match text) : found.after before = found := by
  unfold Match.after
  rw [readAfter_of_atStart start]

theorem firstMatch?_of_atStart {before : Option Token} (start : AtStart before)
    (text : List Char) :
    firstMatch? recognizers before text = firstMatch? recognizers none text := by
  rw [firstMatch?_after]
  rcases firstMatch? recognizers none text with misreading | _ | found
  · rfl
  · rfl
  · exact congrArg (fun claim => Except.ok (some claim)) (found.after_of_atStart start)

theorem clash?_of_atStart {before : Option Token} (start : AtStart before) (token : Token) :
    clash? before token = none := by
  refine clash?_eq_none ?_
  rintro left rfl ⟨operand, -⟩
  cases left <;> contradiction

theorem scan_of_atStart {before : Option Token} (start : AtStart before) (position : Nat)
    (text : List Char) :
    scan recognizers position before text = scan recognizers position none text := by
  cases text with
  | nil => rw [scan, scan]
  | cons first text =>
      rw [scan, scan, firstMatch?_of_atStart start]
      simp only [clash?_of_atStart start, clash?_of_atStart (show AtStart none from rfl)]

theorem scan_openings {before : Option Token} (start : AtStart before) (count position : Nat)
    (text : List Char) :
    scan recognizers position before (List.replicate count '(' ++ text) =
      (scan recognizers (position + count) none text).map
        (List.replicate count .leftParenthesis ++ ·) := by
  induction count generalizing before position with
  | zero =>
      rw [scan_of_atStart start, List.replicate_zero, List.nil_append, Nat.add_zero]
      cases scan recognizers position none text <;> rfl
  | succ count ih =>
      have opened : AtStart (some .leftParenthesis) := rfl
      rw [List.replicate_succ, List.cons_append, scan_symbol rfl rfl, ih opened]
      rw [Nat.add_right_comm, Nat.add_assoc]
      cases scan recognizers (position + (count + 1)) none text <;> rfl

theorem scan_closings (before : Option Token) (count position : Nat) :
    scan recognizers position before (List.replicate count ')') =
      .ok (List.replicate count .rightParenthesis) := by
  induction count generalizing before position with
  | zero => exact scan.eq_1 ..
  | succ count ih =>
      rw [List.replicate_succ, scan_symbol rfl rfl, ih]
      rfl

theorem stopsAt_closings {text : List Char} (nonempty : text ≠ []) (count : Nat) :
    ∀ category ∈ categories, category.StopsAt text (List.replicate count ')') := by
  have closing : ∀ first ∈ (List.replicate count ')').head?, first = ')' := by
    cases count with
    | zero => nofun
    | succ count =>
        rintro _ ⟨⟩
        rfl
  have separating : Separating (List.replicate count ')') := fun first member => by
    rw [closing first member]
    rfl
  -- Unlike other symbols a closing parenthesis cannot make a date of a number either.
  have blocks : Blocks (List.replicate count ')') dateShape := fun place inside first member => by
    have misfit : dateShape.any (fitsShape · ')') = false := rfl
    rw [closing first member]
    exact Bool.eq_false_iff.mpr (List.any_eq_false.mp misfit place inside)
  refine stopsAt_of_separating separating nonempty fun declined => ?_
  rw [splitDate?_eq_none_iff] at declined ⊢
  exact splitShape?_append_eq_none blocks declined

theorem firstMatch?_append_closings (before : Option Token) (first : Char) (rest : List Char)
    (count : Nat) :
    firstMatch? recognizers before (first :: rest ++ List.replicate count ')') =
      (firstMatch? recognizers before (first :: rest)).map
        (Option.map (·.append (List.replicate count ')'))) :=
  firstMatch?_append (stopsAt_closings (List.cons_ne_nil first rest) count) before

theorem scan_append_closings (position : Nat) (before : Option Token) (text : List Char)
    (count : Nat) :
    scan recognizers position before (text ++ List.replicate count ')') =
      (scan recognizers position before text).map
        (· ++ List.replicate count .rightParenthesis) := by
  fun_induction scan recognizers position before text with
  | case1 position before => exact scan_closings before count position
  | case2 position before first rest misreading misread =>
      have longer := firstMatch?_append_closings before first rest count
      rw [misread] at longer
      exact (Halts.misread (List.cons_ne_nil first _) longer).scan_eq
  | case3 position before first rest unclaimed =>
      have longer := firstMatch?_append_closings before first rest count
      rw [unclaimed] at longer
      exact (Halts.unclaimed rfl longer).scan_eq
  | case4 position before first rest found claimed failure clash =>
      have longer := firstMatch?_append_closings before first rest count
      rw [claimed] at longer
      exact (Halts.unjoined longer clash).scan_eq
  | case5 position before first rest found claimed free later scanned ih
  | case6 position before first rest found claimed free later scanned ih =>
      have longer := firstMatch?_append_closings before first rest count
      rw [claimed] at longer
      rw [scan_of_claim longer, Match.token_append, free, Match.lexeme_append, Match.rest_append,
        ih, scanned]
      rfl

/-- A text between so many opening and closing parentheses. -/
def enclosed (openings closings : Nat) (text : String) : String :=
  String.ofList (List.replicate openings '(') ++ text ++ String.ofList (List.replicate closings ')')

theorem source_enclosed (openings closings : Nat) (text : String) :
    source (enclosed openings closings text) =
      List.replicate openings '(' ++ (source text ++ List.replicate closings ')') := by
  have opening : Text.isBlank '(' = false := rfl
  have closing : Text.isBlank ')' = false := rfl
  simp [source, enclosed, Text.withoutBlanks, opening, closing]

theorem tokenize_enclosed (openings closings : Nat) (text : String) :
    tokenize (enclosed openings closings text) =
      displaced openings ((tokenize text).map fun tokens =>
        List.replicate openings .leftParenthesis ++ tokens ++
          List.replicate closings .rightParenthesis) := by
  have start : AtStart none := rfl
  rw [tokenize_eq, source_enclosed, scan_openings start, scan_displaced, scan_append_closings,
    ← tokenize_eq]
  cases tokenize text with
  | error failure => rfl
  | ok tokens => exact congrArg Except.ok (List.append_assoc ..).symm

end Token

namespace Calculator

theorem calculate_enclosed (clock : Clock) (reads openings closings : Nat) (text : String) :
    calculate clock reads (Token.enclosed openings closings text) =
      (calculate clock reads text).displaced openings := by
  cases scanned : Token.tokenize text with
  | error failure =>
      rw [calculate, calculate, Token.tokenize_enclosed, scanned]
      rfl
  | ok tokens =>
      obtain ⟨ordered, converted⟩ := exists_ofInfix_of_tokenize scanned
      have enclosed : Token.tokenize (Token.enclosed openings closings text) =
          .ok (List.replicate openings .leftParenthesis ++ tokens ++
            List.replicate closings .rightParenthesis) := by
        rw [Token.tokenize_enclosed, scanned]
        rfl
      have enclosedOrder := ReversePolish.ofInfix_enclosed openings closings tokens
      rw [converted] at enclosedOrder
      rw [calculate_of_tokenize scanned, calculate_of_tokenize enclosed,
        calculateTokens_of_ofInfix converted, calculateTokens_of_ofInfix enclosedOrder]
      exact (Evaluation.displaced_evaluate openings clock reads ordered).symm

/-- Parentheses around an expression change neither its value nor its failure, but for the positions
in the text, and nothing about how often the clock is read. On tokens they do not change the order
either, so that an unclosed parenthesis is closed at the end and an unopened one is opened at the
start. -/
theorem calculate_enclosed_and_ofInfix_repaired (clock : Clock)
    (reads openings closings : Nat) (text : String) (tokens : List Token) :
    calculate clock reads (Token.enclosed openings closings text) =
        (calculate clock reads text).displaced openings ∧
      ReversePolish.ofInfix (List.replicate openings .leftParenthesis ++ tokens ++
        List.replicate closings .rightParenthesis) = ReversePolish.ofInfix tokens ∧
      Token.Closes 0 (Token.repaired tokens) ∧
      ReversePolish.ofInfix (Token.repaired tokens) = ReversePolish.ofInfix tokens :=
  ⟨calculate_enclosed clock reads openings closings text,
    ReversePolish.ofInfix_enclosed openings closings tokens, Token.closes_repaired tokens,
    ReversePolish.ofInfix_enclosed _ _ tokens⟩

end Calculator

end DateCalculator
