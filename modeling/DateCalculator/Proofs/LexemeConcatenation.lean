import DateCalculator.Proofs.CalendarRange
import DateCalculator.Proofs.FaithfulSegmentation
import Mathlib.Data.List.Chain

/-!
Scanning a concatenation. Lexemes that are written one behind the other are read as they are alone,
if no two operands are neighbours and the numbers have a point: then nothing fuses across a
boundary.
-/

namespace DateCalculator.Token

theorem Match.lexeme_eq {text : List Char} (found : Match text) (ended : found.rest = []) :
    found.lexeme = text := by
  have whole := found.append_eq
  rwa [ended, List.append_nil] at whole

theorem exists_claim_of_scan {position : Nat} {before : Option Token} {text : List Char}
    {token : Token} (scanned : scan recognizers position before text = .ok [token]) :
    ∃ found : Match text, firstMatch? recognizers before text = .ok (some found) ∧
      found.token = token ∧ found.rest = [] := by
  obtain ⟨segments, segmented, tokens⟩ := scan_eq_ok_iff.mp scanned
  cases segmented with
  | done => contradiction
  | segment found claimed _ behind =>
      obtain ⟨same, nothing⟩ := List.cons.inj tokens
      obtain rfl := List.map_eq_nil_iff.mp nothing
      generalize ended : found.rest = rest at behind
      cases behind
      exact ⟨found, claimed, same, ended⟩

/-- A text that is one token on its own. -/
structure Lexeme where
  text : String
  token : Token
  alone : tokenize text = .ok [token]

namespace Lexeme

/-- No number is written without a point, which a minus behind it could turn into a date. -/
def Pointed (lexeme : Lexeme) : Prop :=
  ∀ number, lexeme.token = .literal (.number number) → '.' ∈ lexeme.text.toList

/-- Not two operands. -/
def Joined (left right : Lexeme) : Prop :=
  ¬(left.token.isOperand = true ∧ right.token.isOperand = true)

end Lexeme

def written (lexemes : List Lexeme) : List Char := lexemes.flatMap fun lexeme => source lexeme.text

/-- Tokens read one behind the other: a minus is binary unless nothing stands to its left. -/
def inSequence : Option Token → List Token → List Token
  | _, [] => []
  | before, token :: tokens =>
      readAfter before token :: inSequence (some (readAfter before token)) tokens

theorem point_of_splitNumber {text : List Char} (split : splitNumber text = (text, []))
    (pointed : '.' ∈ text) : ∃ afterPoint, text.dropWhile Char.isDigit = '.' :: afterPoint := by
  by_contra unpointed
  have whole := splitNumber_of_no_point fun afterPoint point => unpointed ⟨afterPoint, point⟩
  rw [split] at whole
  rw [(Prod.mk.inj whole).1] at pointed
  exact absurd (List.mem_takeWhile_imp pointed) (by decide)

/-- A number with a point is not the beginning of a date, nor is any other lexeme. -/
theorem undated_append {category : Category} (member : category ∈ categories)
    {text : List Char} (splits : category.split? text = some (text, []))
    (pointed : category = numbers → '.' ∈ text) (suffix : List Char)
    (declined : splitDate? text = none) : splitDate? (text ++ suffix) = none := by
  cases dated : splitDate? (text ++ suffix) with
  | none => rfl
  | some parts =>
      obtain ⟨first, tail, rfl⟩ := List.exists_cons_of_ne_nil (category.ne_nil splits)
      have digit := isDigit_of_splitDate? dated
      have initial := category.initial_of splits
      rcases mem_categories.mp member with rfl | rfl | rfl | rfl | rfl
      · change splitDate? _ = _ at splits
        rw [declined] at splits
        contradiction
      · obtain rfl := of_decide_eq_true initial
        contradiction
      · have letter : first = 'p' ∨ first = 'P' := by simpa [durations] using initial
        rcases letter with rfl | rfl <;> contradiction
      · have other : first.isDigit = false := other_of_isSymbol initial rfl
        rw [other] at digit
        contradiction
      · obtain ⟨afterPoint, point⟩ :=
          point_of_splitNumber (eq_of_splitNumber? splits).2 (pointed rfl)
        have dash := dash_of_splitDate? dated
        rw [List.dropWhile_append, point] at dash
        cases dash

theorem exists_number_of_reading {before : Option Token} {lexeme : List Char} {token : Token}
    (reads : numbers.reading before lexeme = .ok token) :
    ∃ number, token = .literal (.number number) := by
  simp only [numbers] at reads
  split at reads
  · contradiction
  · split at reads <;> cases reads
    exact ⟨_, rfl⟩

theorem Lexeme.exists_claim (lexeme : Lexeme) :
    ∃ found : Match (source lexeme.text),
      firstMatch? recognizers none (source lexeme.text) = .ok (some found) ∧
        found.token = lexeme.token ∧ found.rest = [] :=
  exists_claim_of_scan lexeme.alone

theorem Lexeme.stopsAt {lexeme : Lexeme} {before : Option Token}
    {found : Match (source lexeme.text)}
    (claimed : firstMatch? recognizers before (source lexeme.text) = .ok (some found))
    (token : found.token = lexeme.token) (ended : found.rest = []) (pointed : lexeme.Pointed)
    {suffix : List Char} (separating : lexeme.token.isOperand = true → Separating suffix) :
    ∀ category ∈ categories, category.StopsAt (source lexeme.text) suffix := by
  have whole := found.lexeme_eq ended
  cases operand : lexeme.token.isOperand with
  | false =>
      obtain ⟨symbol, known, alone, -⟩ := eq_symbol_of_claim claimed (by rw [token, operand])
      rw [← whole, alone]
      exact stopsAt_of_symbol known suffix
  | true =>
      refine stopsAt_of_separating (separating operand) (whole ▸ found.lexeme_ne_nil) ?_
      obtain ⟨category, member, splits, reads⟩ := exists_category claimed
      rw [whole, ended] at splits
      refine undated_append member splits ?_ suffix
      rintro rfl
      obtain ⟨number, numeric⟩ := exists_number_of_reading reads
      exact List.mem_filter.mpr ⟨pointed number (token.symm.trans numeric), by decide⟩

/-- What a lexeme is read as behind a token and in front of a text it does not run into. -/
theorem Lexeme.claim_append (lexeme : Lexeme) (pointed : lexeme.Pointed) {suffix : List Char}
    (separating : lexeme.token.isOperand = true → Separating suffix) (before : Option Token) :
    ∃ found : Match (source lexeme.text ++ suffix),
      firstMatch? recognizers before (source lexeme.text ++ suffix) = .ok (some found) ∧
        found.token = readAfter before lexeme.token ∧ found.rest = suffix := by
  obtain ⟨found, claimed, token, ended⟩ := lexeme.exists_claim
  refine ⟨(found.after before).append suffix, ?_, ?_, ?_⟩
  · rw [firstMatch?_append (lexeme.stopsAt claimed token ended pointed separating),
      firstMatch?_after, claimed]
    rfl
  · rw [← token]
    rfl
  · change found.rest ++ suffix = suffix
    rw [ended, List.nil_append]

theorem Lexeme.separating {lexeme : Lexeme} (joining : lexeme.token.isOperand = false)
    (suffix : List Char) : Separating (source lexeme.text ++ suffix) := by
  obtain ⟨found, claimed, token, ended⟩ := lexeme.exists_claim
  obtain ⟨symbol, known, written, -⟩ := eq_symbol_of_claim claimed (by rw [token, joining])
  rw [← found.lexeme_eq ended, written]
  rintro _ ⟨⟩
  exact known

theorem scan_written {lexemes : List Lexeme} (pointed : ∀ lexeme ∈ lexemes, lexeme.Pointed)
    (joined : lexemes.IsChain Lexeme.Joined) {before : Option Token}
    (separated : ∀ lexeme ∈ lexemes.head?, Separated before lexeme.token) (position : Nat) :
    scan recognizers position before (written lexemes) =
      .ok (inSequence before (lexemes.map Lexeme.token)) := by
  induction lexemes generalizing before position with
  | nil => exact scan.eq_1 ..
  | cons lexeme lexemes ih =>
      obtain ⟨neighbours, joined⟩ := List.isChain_cons.mp joined
      -- Behind an operand the text ends or goes on with a symbol.
      have separating : lexeme.token.isOperand = true → Separating (written lexemes) := by
        intro operand
        cases lexemes with
        | nil => exact separating_nil
        | cons next lexemes =>
            refine Lexeme.separating (Bool.eq_false_iff.mpr fun other => ?_) (written lexemes)
            exact neighbours next rfl ⟨operand, other⟩
      obtain ⟨found, claimed, token, rest⟩ :=
        lexeme.claim_append (pointed lexeme List.mem_cons_self) separating before
      have free : clash? before found.token = none := by
        refine clash?_eq_none fun left same operands => separated lexeme rfl left same ?_
        rwa [token, isOperand_readAfter] at operands
      have next : ∀ other ∈ lexemes.head?, Separated (some found.token) other.token := by
        rintro other among _ ⟨⟩ operands
        rw [token, isOperand_readAfter] at operands
        exact neighbours other among operands
      have later := ih (fun other member => pointed other (List.mem_cons_of_mem lexeme member))
        joined next (position + found.lexeme.length)
      change scan recognizers position before (source lexeme.text ++ written lexemes) = _
      rw [scan_of_claim claimed, free, rest, later, token]
      rfl

/-- Scanning undoes writing: a text made of lexemes, with blanks anywhere, is read as the lexemes
are alone, but that a minus is binary unless nothing stands to its left. -/
theorem tokenize_concatenation {lexemes : List Lexeme}
    (pointed : ∀ lexeme ∈ lexemes, lexeme.Pointed) (joined : lexemes.IsChain Lexeme.Joined)
    {text : String} (spaced : source text = source (String.join (lexemes.map Lexeme.text))) :
    tokenize text = .ok (inSequence none (lexemes.map Lexeme.token)) := by
  have whole : source text = written lexemes := by
    rw [spaced, source, String.toList_join, List.flatMap_map, Text.withoutBlanks,
      List.filter_flatMap]
    rfl
  rw [tokenize_eq, whole]
  exact scan_written pointed joined (fun lexeme _ => separated_none lexeme.token) 0

def scaledAge : List Lexeme := [
  ⟨"-", .unaryMinus, eq_ok_of_toOption (by decide +kernel)⟩,
  ⟨"1.5", .literal (.number 1.5), eq_ok_of_toOption (by decide +kernel)⟩,
  ⟨"*", .ofOperator .multiply, eq_ok_of_toOption (by decide +kernel)⟩,
  ⟨"(", .leftParenthesis, eq_ok_of_toOption (by decide +kernel)⟩,
  ⟨"now", .now, eq_ok_of_toOption (by decide +kernel)⟩,
  ⟨"-", .unaryMinus, eq_ok_of_toOption (by decide +kernel)⟩,
  ⟨"0001-01-01", .literal (.dateTime .earliest), eq_ok_of_toOption (by decide +kernel)⟩,
  ⟨")", .rightParenthesis, eq_ok_of_toOption (by decide +kernel)⟩]

theorem tokenize_concatenation_scaledAge :
    tokenize "- 1. 5 * (now-0001-01 -01)" = .ok [.unaryMinus, .literal (.number 1.5),
      .ofOperator .multiply, .leftParenthesis, .now, .ofOperator .subtract,
      .literal (.dateTime .earliest), .rightParenthesis] := by
  have pointed : ∀ lexeme ∈ scaledAge, lexeme.Pointed := by
    simp [scaledAge, Lexeme.Pointed, Token.ofOperator]
  have joined : scaledAge.IsChain Lexeme.Joined := by
    simp [scaledAge, Lexeme.Joined, isOperand, Token.ofOperator]
  exact tokenize_concatenation pointed joined (by decide +kernel)

end DateCalculator.Token
