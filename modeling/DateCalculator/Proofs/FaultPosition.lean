import DateCalculator.Proofs.DateTimeText
import DateCalculator.Proofs.FaithfulSegmentation
import DateCalculator.Proofs.PrintableTokens
import DateCalculator.Proofs.UnreportedFailures

/-!
Where a scan points when it fails. What stands in front of a faulty lexeme is scanned, and the fault
is the same without what stands behind it. Nothing else keeps a text from being scanned, but for two
operands in a row.
-/

namespace DateCalculator

/-- The number that is written in some places of a text, zero if the text ends before them. -/
def Numeral.valueAt (text : List Char) (start width : Nat) : Nat :=
  Nat.ofDigitChars 10 ((text.drop start).take width) 0

namespace DateTime

theorem plain_of_shaped {date : List Char} (shaped : Token.Shaped Token.dateShape date) :
    ∀ character ∈ date, character.isDigit = true ∨ character = '-' := by
  intro character member
  obtain ⟨place, inside, fits⟩ := shaped.exists_place member
  have either : place = '0' ∨ place = '-' := by
    simp only [Token.dateShape, List.mem_cons, List.not_mem_nil, or_false] at inside
    tauto
  rcases either with rfl | rfl
  · exact .inl fits
  · exact .inr (of_decide_eq_true fits)

/-- What has the form of a date has the fields of one in their places, be there such a day or
not. -/
theorem calendarFields?_of_shaped {date : List Char} (shaped : Token.Shaped Token.dateShape date)
    (rest : List Char) : calendarFields? (date ++ rest) = some
      ((Numeral.valueAt date 0 4, Numeral.valueAt date 5 2, Numeral.valueAt date 8 2), rest) := by
  unfold Token.Shaped Token.dateShape at shaped
  obtain _ | ⟨year1, _ | ⟨year2, _ | ⟨year3, _ | ⟨year4, _ | ⟨dash, shaped⟩⟩⟩⟩⟩ := shaped
  obtain _ | ⟨month1, _ | ⟨month2, _ | ⟨dash', _ | ⟨day1, _ | ⟨day2, ⟨⟩⟩⟩⟩⟩⟩ := shaped
  simp only [Token.fitsShape, Char.reduceEq, if_true, if_false, decide_eq_true_eq] at *
  subst dash dash'
  simp [calendarFields?, Numeral.take?, Numeral.valueAt, *]

theorem readDate_ne_beyondCalendar {text : List Char} {fields : (Nat × Nat × Nat) × List Char}
    (found : calendarFields? text = some fields) : readDate text ≠ .error .beyondCalendar := by
  obtain ⟨⟨year, month, day⟩, rest⟩ := fields
  simp only [readDate, found]
  cases dateOf? year month day with
  | none => rintro ⟨⟩
  | some date =>
      simp only [bind, Except.bind]
      split <;> rintro ⟨⟩

theorem readDate_of_read {text : String} (beyond : read text = .error .beyondCalendar) :
    readDate (splitAtT (text.toList.flatMap capitals)).1 = .error .beyondCalendar := by
  simp only [read] at beyond
  split at beyond
  · cases beyond
  · split at beyond
    · cases beyond
    · split at beyond
      · cases beyond
      · split at beyond
        · rename_i failed
          cases beyond
          exact failed
        · split at beyond <;> cases beyond

/-- The date in front of a text is not parted, and its letters are not changed. -/
theorem splitAtT_of_shaped {date : List Char} (shaped : Token.Shaped Token.dateShape date)
    (rest : List Char) : splitAtT ((date ++ rest).flatMap capitals) =
      (date ++ (splitAtT (rest.flatMap capitals)).1, (splitAtT (rest.flatMap capitals)).2) := by
  have plain := plain_of_shaped shaped
  have unmarked : 'T' ∉ date := by
    intro member
    rcases plain 'T' member with digit | same
    · exact absurd digit (by decide)
    · exact absurd same (by decide)
  have kept : date.flatMap capitals = date := flatMap_capitals fun character member =>
    mem_textCharacters_of_plain (by decide) (plain character member)
  rw [List.flatMap_append, kept, splitAtT_append unmarked]

/-- Only week dates lead out of the calendar, and no date of an expression is one. -/
theorem read_ne_beyondCalendar {text lexeme rest : List Char}
    (found : Token.splitDate? text = some (lexeme, rest)) :
    read (String.ofList lexeme) ≠ .error .beyondCalendar := by
  intro beyond
  obtain ⟨⟨date, afterDate⟩, split, same⟩ := Option.map_eq_some_iff.mp found
  cases same
  have shaped := (Token.splitShape?_eq_some_iff.mp split).2
  have failed := readDate_of_read beyond
  rw [String.toList_ofList, splitAtT_of_shaped shaped] at failed
  exact readDate_ne_beyondCalendar (calendarFields?_of_shaped shaped _) failed

end DateTime

namespace Token

section Cut

variable {position : Nat} {before : Option Token} {text kept cut : List Char}
  {segments : List Segment}

theorem Segmentation.cutBehind
    (segmented : Segmentation recognizers before text segments (kept ++ cut)) :
    Segmentation recognizers before (lexemes segments ++ kept) segments kept := by
  generalize whole : kept ++ cut = rest at segmented
  induction segmented with
  | done => exact .done
  | @segment _ _ segments _ found claimed free behind ih =>
      have parted : found.rest = (lexemes segments ++ kept) ++ cut := by
        rw [List.append_assoc, whole]
        exact behind.append_eq.symm
      have shorter := firstMatch?_cutBehind claimed parted
      rw [lexemes_cons, List.append_assoc]
      exact .segment (found.cutBehind _) shorter free (ih whole)

/-- Durations, symbols and numbers are told by their first character. -/
theorem split?_ne_none_of_initial {category : Category}
    (member : category ∈ [durations, symbols, numbers]) {first : Char}
    (initial : category.initial first = true) (rest : List Char) :
    category.split? (first :: rest) ≠ none := by
  simp only [List.mem_cons, List.not_mem_nil, or_false] at member
  rcases member with rfl | rfl | rfl
  · have letter : first = 'p' ∨ first = 'P' := by simpa [durations] using initial
    change splitDuration? (first :: rest) ≠ none
    simp [splitDuration?, letter]
  · change splitSymbol? (first :: rest) ≠ none
    have symbol : isSymbol first = true := initial
    simp [splitSymbol?, symbol]
  · have begun : first.isDigit = true ∨ first = '.' := by simpa [numbers] using initial
    change splitNumber? (first :: rest) ≠ none
    rw [splitNumber?, ne_eq, ite_eq_left_iff, not_forall]
    refine ⟨?_, Option.some_ne_none _⟩
    unfold splitNumber
    rcases begun with digit | rfl
    · simp only [List.takeWhile_cons, digit, if_true]
      split <;> simp
    · simp [Char.isDigit]

/-- What declines a text declines its first character. -/
theorem declined_alone {first : Char} {rest : List Char}
    (declined : ∀ category ∈ categories, category.split? (first :: rest) = none) :
    ∀ category ∈ categories, category.split? [first] = none := by
  have told {category : Category} (member : category ∈ [durations, symbols, numbers])
      (declined : category.split? (first :: rest) = none) : category.split? [first] = none := by
    cases initial : category.initial first with
    | false => exact category.split?_eq_none initial []
    | true => exact absurd declined (split?_ne_none_of_initial member initial rest)
  rw [forall_mem_categories] at declined ⊢
  obtain ⟨date, now, duration, symbol, number⟩ := declined
  refine ⟨?_, ?_, told (by simp) duration, told (by simp) symbol, told (by simp) number⟩
  · have longer : splitShape? dateShape ([first] ++ rest) = none := splitDate?_eq_none_iff.mp date
    exact splitDate?_eq_none_iff.mpr (splitShape?_eq_none_of_append longer)
  · refine splitNow?_eq_none ?_
    rw [splitShape?]
    split <;> rfl

/-- A scan that halts at a faulty lexeme halts there also if the lexeme is all that is left. -/
theorem Halts.alone {fault : LexicalFault} {lexeme : String} {place : Nat}
    (halts : Halts recognizers position before text (.lexical fault lexeme place)) :
    place = position ∧ lexeme.toList ≠ [] ∧ (∃ rest, lexeme.toList ++ rest = text) ∧
      Halts recognizers position before lexeme.toList (.lexical fault lexeme place) := by
  generalize same : Failure.lexical fault lexeme place = failure at halts
  cases halts with
  | @misread misreading _ misread =>
      cases same
      obtain ⟨category, rest, split, -⟩ := firstSplit_of_misread misread
      have nonempty := category.ne_nil split.splits
      rw [String.toList_ofList]
      exact ⟨rfl, nonempty, ⟨rest, category.append_eq split.splits⟩,
        .misread nonempty (misread_alone misread)⟩
  | @unclaimed first rest begun unclaimed =>
      cases same
      subst begun
      have declined := declined_alone (firstMatch?_eq_none_iff.mp unclaimed)
      rw [String.toList_singleton]
      exact ⟨rfl, List.cons_ne_nil _ _, ⟨rest, rfl⟩,
        .unclaimed rfl (firstMatch?_eq_none_iff.mpr declined)⟩
  | unjoined claimed clash =>
      obtain ⟨left, -, other⟩ := exists_left_of_clash? clash
      rw [other] at same
      cases same

end Cut

/-- What a lexical failure tells: a part of the source, in front of which everything is scanned, and
behind which nothing matters. -/
structure PointsAtFault (text : String) (fault : LexicalFault) (lexeme : String) (position : Nat) :
    Prop where
  nonempty : lexeme ≠ ""
  placed : lexeme.toList = ((source text).drop position).take lexeme.length
  before : ∃ tokens, tokenize (String.ofList ((source text).take position)) = .ok tokens
  upTo : tokenize (String.ofList ((source text).take (position + lexeme.length))) =
    .error (.lexical fault lexeme position)

/-- Scanning a source that is cut behind some segments is scanning what is kept behind them. -/
theorem Segmentation.tokenize_cutBehind {text : String} {segments : List Segment}
    {kept cut : List Char}
    (segmented : Segmentation recognizers none (source text) segments (kept ++ cut)) :
    tokenize (String.ofList (lexemes segments ++ kept)) =
      (scan recognizers (lexemes segments).length (lastToken none segments) kept).map
        (segments.map Segment.token ++ ·) := by
  have whole := segmented.append_eq
  rw [← List.append_assoc] at whole
  have unblank : ∀ character ∈ lexemes segments ++ kept, Text.isBlank character = false := by
    intro character member
    have inside : character ∈ source text := whole ▸ List.mem_append_left cut member
    exact Text.not_isBlank_of_mem_withoutBlanks inside
  rw [tokenize_eq, source_eq_self unblank, segmented.cutBehind.scan_eq, Nat.zero_add]

theorem pointsAtFault_of_tokenize {text : String} {fault : LexicalFault} {lexeme : String}
    {position : Nat} (failed : tokenize text = .error (.lexical fault lexeme position)) :
    PointsAtFault text fault lexeme position := by
  obtain ⟨segments, rest, segmented, ended⟩ :=
    exists_segmentation recognizers 0 none (source text)
  rw [tokenize_eq, segmented.scan_eq] at failed
  rcases ended with rfl | ⟨failure, halts⟩
  · rw [scan] at failed
    cases failed
  · rw [halts.scan_eq] at failed
    cases failed
    obtain ⟨rfl, nonempty, ⟨behind, rfl⟩, halted⟩ := halts.alone
    rw [Nat.zero_add] at *
    have whole := segmented.append_eq
    constructor
    · rintro rfl
      exact nonempty rfl
    · rw [← whole, List.drop_left, ← String.length_toList, List.take_left]
    · have front : Segmentation recognizers none (source text) segments
        ([] ++ (lexeme.toList ++ behind)) := segmented
      have scanned := front.tokenize_cutBehind
      rw [List.append_nil, scan] at scanned
      rw [← whole, List.take_left]
      exact ⟨_, scanned⟩
    · rw [← whole, ← String.length_toList, ← List.length_append, ← List.append_assoc,
        List.take_left, segmented.tokenize_cutBehind, halted.scan_eq]
      rfl

/-- The kinds of failures that a scan can have. -/
def scanCategories : List Failure.Category :=
  [.invalidCharacter, .invalidNumber, .invalidDate, .invalidDuration, .invalidExpression]

theorem Unscanned.exists_category {property : Token → Prop} {failure : Failure}
    (unscanned : Unscanned property failure) :
    ∃ category ∈ scanCategories, failure.category? = some category := by
  cases unscanned with
  | lexical fault lexeme position =>
      refine ⟨Failure.lexicalCategory fault, ?_, rfl⟩
      cases fault <;> simp [scanCategories, Failure.lexicalCategory]
  | unjoinedOperands left right => exact ⟨.invalidExpression, by simp [scanCategories], rfl⟩

/-- A lexical failure points at its fault. Every text is scanned, or fails to be scanned in one of
five ways; the tokens that a failure names can be written out, as can those of a scanned text, and
reading a date never fails for a moment beyond the calendar, which is no lexical fault. -/
theorem failures_point_at_faults :
    (∀ (text : String) (fault : LexicalFault) (lexeme : String) (position : Nat),
      tokenize text = .error (.lexical fault lexeme position) →
        PointsAtFault text fault lexeme position) ∧
    (∀ text : String,
      (∃ tokens, tokenize text = .ok tokens ∧ ∀ token ∈ tokens, token.Printable) ∨
        ∃ failure, tokenize text = .error failure ∧ Unscanned Printable failure ∧
          ∃ category ∈ scanCategories, failure.category? = some category) ∧
    ∀ text lexeme rest : List Char, splitDate? text = some (lexeme, rest) →
      DateTime.read (String.ofList lexeme) ≠ .error .beyondCalendar := by
  refine ⟨fun _ _ _ _ => pointsAtFault_of_tokenize, fun text => ?_,
    fun _ _ _ => DateTime.read_ne_beyondCalendar⟩
  cases outcome : tokenize text with
  | ok tokens => exact .inl ⟨tokens, rfl, writable_of_scan (fun _ member => member) outcome⟩
  | error failure =>
      have unscanned := unscanned_printable (fun _ member => member) outcome
      exact .inr ⟨failure, rfl, unscanned, unscanned.exists_category⟩

def missingMonth : String := "1 + 2024-13-01 * x"

theorem failures_point_at_faults_missingMonth :
    tokenize missingMonth = .error (.lexical .date "2024-13-01" 2) ∧
      PointsAtFault missingMonth .date "2024-13-01" 2 := by
  have failed : tokenize missingMonth = .error (.lexical .date "2024-13-01" 2) := by
    decide +kernel
  exact ⟨failed, failures_point_at_faults.1 _ _ _ _ failed⟩

end Token

end DateCalculator
