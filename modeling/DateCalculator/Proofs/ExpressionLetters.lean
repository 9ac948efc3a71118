import DateCalculator.Proofs.FaithfulSegmentation
import DateCalculator.Proofs.NumeralText
import DateCalculator.Proofs.WellFormedValues

/-!
The letters of expressions. Only `now`, durations and the times of dates are written with letters,
and with few of them.
-/

namespace DateCalculator

namespace Text

theorem code_of_isAlpha {letter : Char} (alpha : letter.isAlpha = true) :
    65 ≤ letter.toNat ∧ letter.toNat ≤ 90 ∨ 97 ≤ letter.toNat ∧ letter.toNat ≤ 122 := by
  simpa [Char.isAlpha, Char.isUpper, Char.isLower, UInt32.le_iff_toNat_le] using alpha

theorem not_isBlank_of_isAlpha {letter : Char} (alpha : letter.isAlpha = true) :
    isBlank letter = false := by
  have code := code_of_isAlpha alpha
  unfold isBlank
  simp only [Bool.or_eq_false_iff, Bool.and_eq_false_iff, decide_eq_false_iff_not,
    beq_eq_false_iff_ne]
  omega

theorem not_isAlpha_of_isDecimalDigit {digit : Char} (decimal : isDecimalDigit digit = true) :
    digit.isAlpha = false := by
  have apart : ∀ start ∈ digitZeros, start + 10 ≤ 65 ∨ 123 ≤ start := by decide
  unfold isDecimalDigit decimalDigit? at decimal
  rw [Option.isSome_map, List.find?_isSome] at decimal
  obtain ⟨start, member, bounds⟩ := decimal
  simp only [Bool.and_eq_true, decide_eq_true_eq] at bounds
  have outside := apart start member
  refine Bool.eq_false_iff.mpr fun alpha => ?_
  have code := code_of_isAlpha alpha
  omega

end Text

namespace Token

/-- The letters of `now`, of durations and of dates, and with them the long s. -/
def letters : List Char := ['n', 'o', 'w'] ++ Duration.designators.flatMap Duration.marks

/-- What is a letter in the text is one of these. -/
def Lettered (text : List Char) : Prop :=
  ∀ letter ∈ text, letter.isAlpha = true → letter ∈ letters

theorem mem_letters {designator mark : Char} (known : designator ∈ Duration.designators)
    (marked : mark ∈ Duration.marks designator) : mark ∈ letters :=
  List.mem_append_right _ (List.mem_flatMap.mpr ⟨designator, known, marked⟩)

theorem lettered_nil : Lettered [] := fun _ member => absurd member List.not_mem_nil

theorem Lettered.append {text more : List Char} (lettered : Lettered text)
    (behind : Lettered more) : Lettered (text ++ more) := by
  intro letter member
  exact (List.mem_append.mp member).elim (lettered letter) (behind letter)

theorem Lettered.cons {first : Char} {text : List Char}
    (known : first.isAlpha = true → first ∈ letters) (behind : Lettered text) :
    Lettered (first :: text) := by
  intro letter member alpha
  rcases List.mem_cons.mp member with rfl | later
  · exact known alpha
  · exact behind letter later alpha

theorem lettered_of_not_isAlpha {text : List Char}
    (plain : ∀ character ∈ text, character.isAlpha = false) : Lettered text := by
  intro letter member alpha
  rw [plain letter member] at alpha
  contradiction

theorem lettered_of_isDigit {digits : List Char}
    (ascii : ∀ digit ∈ digits, digit.isDigit = true) : Lettered digits :=
  lettered_of_not_isAlpha fun digit member =>
    Text.not_isAlpha_of_isDecimalDigit (Text.isDecimalDigit_of_isDigit (ascii digit member))

theorem lettered_elim {Part : Type} {spell : Part → List Char}
    (lettered : ∀ part, Lettered (spell part)) (given : Option Part) :
    Lettered (given.elim [] spell) := by
  cases given with
  | none => exact lettered_nil
  | some part => exact lettered part

end Token

namespace Duration

open Token

theorem DigitRun.lettered (run : DigitRun) : Lettered run.digits :=
  lettered_of_not_isAlpha fun digit member =>
    Text.not_isAlpha_of_isDecimalDigit (run.decimal digit member)

theorem Component.lettered {designator : Char} (known : designator ∈ designators)
    (component : Component designator) : Lettered component.text :=
  component.numeral.lettered.append
    (.cons (fun _ => mem_letters known component.marked) lettered_nil)

theorem Fraction.lettered (fraction : Fraction) : Lettered fraction.text := by
  refine .cons (fun alpha => ?_) fraction.run.lettered
  rcases fraction.pointed with same | same <;> rw [same] at alpha <;> contradiction

theorem SecondsComponent.lettered (seconds : SecondsComponent) : Lettered seconds.text := by
  have fraction := lettered_elim Fraction.lettered seconds.fraction
  exact seconds.numeral.lettered.append
    (fraction.append (.cons (fun _ => mem_letters (by decide) seconds.marked) lettered_nil))

theorem TimeSpelling.lettered (time : TimeSpelling) : Lettered time.text := by
  have hours := lettered_elim (Component.lettered (by decide)) time.hours
  have minutes := lettered_elim (Component.lettered (by decide)) time.minutes
  have seconds := lettered_elim SecondsComponent.lettered time.seconds
  exact .cons (fun _ => mem_letters (by decide) time.marked)
    ((hours.append minutes).append seconds)

theorem Spelling.lettered (spelling : Spelling) : Lettered spelling.text := by
  have sign : Lettered spelling.sign.text := by
    cases spelling.sign with
    | absent => exact lettered_nil
    | plus => exact .cons (fun alpha => absurd alpha (by decide)) lettered_nil
    | minus => exact .cons (fun alpha => absurd alpha (by decide)) lettered_nil
  have lineEnd : Lettered (lineEndText spelling.lineEnd) := by
    cases spelling.lineEnd with
    | false => exact lettered_nil
    | true => exact .cons (fun alpha => absurd alpha (by decide)) lettered_nil
  have years := lettered_elim (Component.lettered (by decide)) spelling.years
  have months := lettered_elim (Component.lettered (by decide)) spelling.months
  have weeks := lettered_elim (Component.lettered (by decide)) spelling.weeks
  have days := lettered_elim (Component.lettered (by decide)) spelling.days
  have time := lettered_elim TimeSpelling.lettered spelling.time
  have body := ((((years.append months).append weeks).append days).append time).append lineEnd
  exact sign.append (.cons (fun _ => mem_letters (by decide) spelling.marked) body)

theorem lettered_of_read {lexeme : List Char} {span : Duration}
    (reads : read (String.ofList lexeme) = .ok span) : Lettered lexeme := by
  obtain ⟨spelling, same, -⟩ := exists_spelling_of_read reads
  rw [String.toList_ofList] at same
  exact same ▸ spelling.lettered

end Duration

namespace Token

/-- The time mark is the only letter in the shape. -/
def Plain (shape : List Char) : Prop := ∀ place ∈ shape, place = 'T' ∨ place.isAlpha = false

theorem plain_of_all {shape : List Char}
    (checked : (shape.all fun place => place = 'T' || !place.isAlpha) = true) : Plain shape := by
  intro place member
  simpa using List.all_eq_true.mp checked place member

theorem known_of_fitsShape {place character : Char} (plain : place = 'T' ∨ place.isAlpha = false)
    (fits : fitsShape place character = true) (alpha : character.isAlpha = true) :
    character ∈ letters := by
  unfold fitsShape at fits
  split at fits
  · have digit := Text.not_isAlpha_of_isDecimalDigit (Text.isDecimalDigit_of_isDigit fits)
    rw [digit] at alpha
    contradiction
  · split at fits
    · have marked : character ∈ Duration.marks 'T' := by simpa [Duration.marks] using fits
      exact mem_letters (by decide) marked
    · rename_i unmarked
      rw [of_decide_eq_true fits, plain.resolve_left unmarked] at alpha
      contradiction

theorem lettered_of_shaped {shape lexeme : List Char} (plain : Plain shape)
    (shaped : Shaped shape lexeme) : Lettered lexeme := by
  intro character member alpha
  obtain ⟨place, inside, fits⟩ := shaped.exists_place member
  exact known_of_fitsShape (plain place inside) fits alpha

theorem lettered_splitShapes {shapes : List (List Char)} (plain : ∀ shape ∈ shapes, Plain shape)
    (text : List Char) : Lettered (splitShapes shapes text).1 := by
  induction shapes generalizing text with
  | nil => exact lettered_nil
  | cons shape shapes ih =>
      have later := ih fun other member => plain other (List.mem_cons_of_mem shape member)
      cases found : splitShape? shape text with
      | none =>
          rw [splitShapes_of_none found]
          exact lettered_nil
      | some parts =>
          rw [splitShapes_of_some found]
          have shaped := (splitShape?_eq_some_iff.mp found).2
          exact (lettered_of_shaped (plain shape List.mem_cons_self) shaped).append (later _)

section Lexemes

variable {text lexeme rest : List Char}

theorem lettered_of_splitDate? (found : splitDate? text = some (lexeme, rest)) :
    Lettered lexeme := by
  obtain ⟨⟨date, afterDate⟩, split, same⟩ := Option.map_eq_some_iff.mp found
  cases same
  have timed : ∀ shape ∈ timeShapes, Plain shape := by
    simp only [timeShapes, List.forall_mem_cons, List.not_mem_nil, false_imp_iff, implies_true,
      and_true]
    exact ⟨plain_of_all rfl, plain_of_all rfl, plain_of_all rfl⟩
  have dated := lettered_of_shaped (plain_of_all rfl) (splitShape?_eq_some_iff.mp split).2
  exact dated.append (lettered_splitShapes timed afterDate)

theorem lettered_splitNumber (text : List Char) : Lettered (splitNumber text).1 := by
  have digits (run : List Char) : Lettered (run.takeWhile Char.isDigit) :=
    lettered_of_isDigit fun _ => List.mem_takeWhile_imp
  by_cases pointed : ∃ afterPoint, text.dropWhile Char.isDigit = '.' :: afterPoint
  · obtain ⟨afterPoint, point⟩ := pointed
    rw [splitNumber_of_point point]
    exact (digits text).append
      (.cons (fun alpha => absurd alpha (by decide)) (digits afterPoint))
  · rw [splitNumber_of_no_point fun afterPoint point => pointed ⟨afterPoint, point⟩]
    exact digits text

theorem lettered_of_reading {category : Category} (member : category ∈ categories)
    (found : category.split? text = some (lexeme, rest)) {before : Option Token} {token : Token}
    (reads : category.reading before lexeme = .ok token) : Lettered lexeme := by
  rcases mem_categories.mp member with rfl | rfl | rfl | rfl | rfl
  · exact lettered_of_splitDate? found
  · rw [(eq_of_splitNow? found).1]
    exact fun letter inside _ => List.mem_append_left _ inside
  · simp only [durations] at reads
    split at reads
    · rename_i read
      exact Duration.lettered_of_read read
    · contradiction
  · obtain ⟨symbol, -, known, rfl⟩ := eq_of_splitSymbol? found
    have plain : symbol.isAlpha = false := other_of_isSymbol known rfl
    exact .cons (fun alpha => absurd alpha (by rw [plain]; decide)) lettered_nil
  · have number := lettered_splitNumber text
    rwa [(eq_of_splitNumber? found).2] at number

theorem Segmentation.lettered {before : Option Token} {segments : List Segment}
    (segmented : Segmentation recognizers before text segments rest) :
    Lettered (lexemes segments) := by
  have each : ∀ segment ∈ segments, Lettered segment.lexeme := by
    refine segmented.forall_segment fun rule member _ _ found claims => ?_
    obtain ⟨category, among, splits, reads⟩ := exists_category_of_rule member claims
    exact lettered_of_reading among splits reads
  intro letter member
  obtain ⟨segment, among, inside⟩ := List.mem_flatMap.mp member
  exact each segment among letter inside

end Lexemes

/-- A text that is split into tokens has no letters but those of words. -/
theorem lettered_of_tokenize {text : String} {tokens : List Token}
    (scanned : tokenize text = .ok tokens) : Lettered text.toList := by
  obtain ⟨segments, segmented, -⟩ := scan_eq_ok_iff.mp scanned
  have whole : lexemes segments = source text :=
    (List.append_nil _).symm.trans segmented.append_eq
  intro letter member alpha
  have kept : letter ∈ source text :=
    List.mem_filter.mpr ⟨member, by rw [Text.not_isBlank_of_isAlpha alpha]; rfl⟩
  exact segmented.lettered letter (whole ▸ kept) alpha

end Token

end DateCalculator
