import DateCalculator.Proofs.DateTimeText
import DateCalculator.Proofs.DurationRoundTrip
import DateCalculator.Proofs.GreedyBalance
import DateCalculator.Proofs.LexemeConcatenation
import DateCalculator.Proofs.PrintableTokens
import DateCalculator.Proofs.StackEvaluation

/-!
Results fed back as input. A moment without a fraction of a second and a duration of whole seconds
are printed as expressions that the calculator evaluates to the value again: the moment itself, the
duration with its milliseconds carried, and for a negative duration, whose sign is read as a minus,
the milliseconds that it has in all.
-/

namespace DateCalculator

namespace Token

/-- A text that is a lexeme of one category, and of none before it, is one token. -/
theorem tokenize_of_split {earlier later : List Category} {category : Category}
    (ordered : categories = earlier ++ category :: later) {characters : List Char} {token : Token}
    (unblank : ∀ character ∈ characters, Text.isBlank character = false)
    (declined : ∀ other ∈ earlier, other.split? characters = none)
    (split : category.split? characters = some (characters, []))
    (reads : category.reading none characters = .ok token) :
    tokenize (String.ofList characters) = .ok [token] := by
  let found : Match characters :=
    ⟨token, characters, [], category.ne_nil split, category.append_eq split⟩
  have claims : category.rule none characters = .ok (some found) :=
    Category.rule_eq_some_iff.mpr ⟨split, reads⟩
  have claimed : firstMatch? recognizers none characters = .ok (some found) := by
    refine firstMatch?_eq_some_iff.mpr
      ⟨earlier.map Category.rule, category.rule, later.map Category.rule, ?_, ?_, claims⟩
    · rw [recognizers_eq, ordered, List.map_append, List.map_cons]
    · intro rule member
      obtain ⟨other, among, rfl⟩ := List.mem_map.mp member
      exact Category.rule_of_none (declined other among) none
  rw [tokenize_eq, source_eq_self unblank, scan_of_claim claimed, scan]
  rfl

theorem shaped_padded {width value : Nat} (positive : 0 < width)
    (bound : value < Nat.pow 10 width) :
    Shaped (List.replicate width '0') (Numeral.padded width value) := by
  have general (digits : List Char) (ascii : ∀ digit ∈ digits, digit.isDigit = true) :
      Shaped (List.replicate digits.length '0') digits := by
    induction digits with
    | nil => exact .nil
    | cons first digits ih =>
        exact .cons (ascii first List.mem_cons_self)
          (ih fun digit member => ascii digit (List.mem_cons_of_mem first member))
  have ascii : ∀ digit ∈ Numeral.padded width value, digit.isDigit = true :=
    Numeral.isDigit_of_mem_padded
  have shaped := general _ ascii
  rwa [Numeral.length_padded positive bound] at shaped

theorem splitShapes_of_shaped {shape lexeme : List Char} (shaped : Shaped shape lexeme)
    (shapes : List (List Char)) (rest : List Char) :
    splitShapes (shape :: shapes) (lexeme ++ rest) =
      (lexeme ++ (splitShapes shapes rest).1, (splitShapes shapes rest).2) :=
  splitShapes_of_some (splitShape?_eq_some_iff.mpr ⟨rfl, shaped⟩) shapes

end Token

namespace DateTime

variable (moment : DateTime)

theorem unblank_characters : ∀ character ∈ moment.characters, Text.isBlank character = false := by
  have checked : textCharacters.all (fun character => !Text.isBlank character) = true := by decide
  intro character member
  simpa using List.all_eq_true.mp checked character (moment.mem_characters character member)

theorem splitDate?_characters (whole : moment.microsecond = 0) :
    Token.splitDate? moment.characters = some (moment.characters, []) := by
  obtain ⟨year, month, day⟩ := moment.dateBounds
  obtain ⟨hour, minute, second, -⟩ := moment.timeBounds
  have date : Token.Shaped Token.dateShape moment.dateCharacters :=
    ((Token.shaped_padded (by decide) year).append
      (.cons rfl (Token.shaped_padded (by decide) month))).append
      (.cons rfl (Token.shaped_padded (by decide) day))
  have field (mark : Char) {value : Nat} (fits : Token.fitsShape mark mark = true)
      (bound : value < Nat.pow 10 2) :
      Token.Shaped [mark, '0', '0'] (mark :: Numeral.padded 2 value) :=
    .cons fits (Token.shaped_padded (by decide) bound)
  have text : moment.characters = moment.dateCharacters ++
      ('T' :: Numeral.padded 2 moment.hour ++ (':' :: Numeral.padded 2 moment.minute ++
        (':' :: Numeral.padded 2 moment.second ++ []))) := by
    rw [characters_eq, secondCharacters, if_pos whole]
    rfl
  rw [text, Token.splitDate?_of_some (Token.splitShape?_eq_some_iff.mpr ⟨rfl, date⟩),
    Token.timeShapes, Token.splitShapes_of_shaped (field 'T' rfl hour),
    Token.splitShapes_of_shaped (field ':' rfl minute),
    Token.splitShapes_of_shaped (field ':' rfl second)]
  rfl

/-- A moment without a fraction of a second is a date to the scanner, time of day included. -/
theorem tokenize_text (whole : moment.microsecond = 0) :
    Token.tokenize moment.text = .ok [.literal (.dateTime moment)] := by
  have first : Token.categories = [] ++ Token.dates :: Token.categories.tail := rfl
  have split : Token.dates.split? moment.characters = some (moment.characters, []) := by
    simp only [Token.dates, moment.splitDate?_characters whole]
  have reads : read (String.ofList moment.characters) = .ok moment := moment.read_text
  refine Token.tokenize_of_split first moment.unblank_characters (by simp) split ?_
  simp only [Token.dates, reads]

end DateTime

namespace Duration

/-- The digits and letters that the text of a duration of whole seconds is made of. -/
def wordCharacters : List Char := Numeral.asciiDigits ++ ['P', 'Y', 'M', 'W', 'D', 'T', 'H', 'S']

theorem alphanum_of_mem_wordCharacters {character : Char} (member : character ∈ wordCharacters) :
    character.isAlphanum = true ∧ Text.isBlank character = false := by
  have checked : wordCharacters.all (fun character =>
      character.isAlphanum && !Text.isBlank character) = true := by decide
  simpa using List.all_eq_true.mp checked character member

theorem mem_wordCharacters_of_mem_part {amount : Nat} {designator : Char}
    (letter : designator ∈ wordCharacters) :
    ∀ character ∈ part amount designator, character ∈ wordCharacters := by
  intro character member
  unfold part at member
  split at member
  · contradiction
  · rcases List.mem_append.mp member with digit | same
    · exact List.mem_append_left _
        (Numeral.mem_asciiDigits (Numeral.isDigit_of_mem_toDigits character digit))
    · rwa [List.mem_singleton.mp same]

section Tokens

variable {span : Duration}

theorem mem_wordCharacters_of_mem_dateText :
    ∀ character ∈ span.dateText, character ∈ wordCharacters := by
  intro character member
  simp only [dateText, List.mem_append] at member
  rcases member with ((years | months) | weeks) | days
  · exact mem_wordCharacters_of_mem_part (by decide) character years
  · exact mem_wordCharacters_of_mem_part (by decide) character months
  · exact mem_wordCharacters_of_mem_part (by decide) character weeks
  · exact mem_wordCharacters_of_mem_part (by decide) character days

theorem mem_wordCharacters_of_mem_timeText (whole : span.secondsPart % 1000 = 0) :
    ∀ character ∈ span.timeText, character ∈ wordCharacters := by
  intro character member
  simp only [timeText, secondsText, if_pos whole, List.mem_append] at member
  rcases member with (hours | minutes) | seconds
  · exact mem_wordCharacters_of_mem_part (by decide) character hours
  · exact mem_wordCharacters_of_mem_part (by decide) character minutes
  · exact mem_wordCharacters_of_mem_part (by decide) character seconds

/-- The text of a duration of whole seconds is a word behind its sign. -/
theorem exists_word (directed : 0 ≤ span.sign) (whole : span.secondsPart % 1000 = 0) :
    ∃ word, span.characters = 'P' :: word ∧ ∀ character ∈ word, character ∈ wordCharacters := by
  by_cases zero : span.sign = 0
  · exact ⟨['T', '0', 'S'], by rw [characters, if_pos zero],
      by simp [wordCharacters, Numeral.asciiDigits]⟩
  · have positive : ¬ span.sign < 0 := by omega
    refine ⟨span.dateText ++ if span.timeText = [] then [] else 'T' :: span.timeText, ?_, ?_⟩
    · rw [characters, if_neg zero, if_neg positive]
      rfl
    · refine List.forall_mem_append.mpr ⟨mem_wordCharacters_of_mem_dateText, ?_⟩
      split
      · exact List.forall_mem_nil _
      · exact List.forall_mem_cons.mpr ⟨by decide, mem_wordCharacters_of_mem_timeText whole⟩

theorem unblank_characters (directed : 0 ≤ span.sign) (whole : span.secondsPart % 1000 = 0) :
    ∀ character ∈ span.characters, Text.isBlank character = false := by
  obtain ⟨word, text, written⟩ := exists_word directed whole
  rw [text]
  exact List.forall_mem_cons.mpr
    ⟨rfl, fun character member => (alphanum_of_mem_wordCharacters (written character member)).2⟩

theorem tokenize_text (printable : span.Printable) (directed : 0 ≤ span.sign)
    (whole : span.secondsPart % 1000 = 0) :
    Token.tokenize span.text = .ok [.literal (.duration (ofAmounts false span.carried))] := by
  obtain ⟨word, text, written⟩ := exists_word directed whole
  have alphanumeric : ∀ character ∈ word, character.isAlphanum = true :=
    fun character member => (alphanum_of_mem_wordCharacters (written character member)).1
  have third : Token.categories =
      [Token.dates, Token.nows] ++ Token.durations :: Token.categories.drop 3 := rfl
  have reads := read_text printable
  have positive : decide (span.sign < 0) = false := decide_eq_false (by omega)
  rw [Duration.text, positive] at reads
  rw [Duration.text]
  refine Token.tokenize_of_split third (unblank_characters directed whole) ?_ ?_
    (by simp only [Token.durations, reads])
  · rw [text]
    refine List.forall_mem_cons.mpr ⟨?_, List.forall_mem_cons.mpr ⟨?_, by simp⟩⟩
    · exact Token.Category.split?_eq_none rfl word
    · exact Token.Category.split?_eq_none rfl word
  · rw [text]
    change some (_, _) = some (_, _)
    rw [List.takeWhile_eq_self_iff.mpr alphanumeric, List.dropWhile_eq_nil_iff.mpr alphanumeric]

/-- The same amounts without a sign. -/
def unsigned (span : Duration) : Duration := ofAmounts false span.magnitude

theorem magnitude_unsigned (unit : TimeUnit) : span.unsigned.magnitude unit = span.magnitude unit :=
  magnitude_ofAmounts false span.magnitude unit

theorem totalMilliseconds_unsigned :
    span.unsigned.totalMilliseconds = (span.totalMilliseconds.natAbs : Int) := by
  rw [unsigned, totalMilliseconds_ofAmounts, natAbs_totalMilliseconds]
  rfl

theorem secondsPart_unsigned : span.unsigned.secondsPart = span.secondsPart := by
  simp only [secondsPart, magnitude_unsigned]

theorem sign_unsigned (negative : span.sign < 0) : 0 < span.unsigned.sign := by
  rw [sign_eq, Int.sign_neg_iff] at negative
  rw [sign_eq, totalMilliseconds_unsigned, Int.sign_pos_iff]
  omega

theorem characters_unsigned (negative : span.sign < 0) :
    span.characters = '-' :: span.unsigned.characters := by
  have directed := sign_unsigned negative
  have date : span.unsigned.dateText = span.dateText := by
    simp only [dateText, magnitude_unsigned]
  have time : span.unsigned.timeText = span.timeText := by
    simp only [timeText, magnitude_unsigned, secondsPart_unsigned]
  rw [characters, characters, if_neg (Int.ne_of_lt negative), if_pos negative,
    if_neg (Int.ne_of_gt directed), if_neg (Int.not_lt.mpr (Int.le_of_lt directed)), date, time]
  rfl

/-- The sign of a negative duration is a minus of its own to the scanner. -/
theorem tokenize_text_of_neg (printable : span.unsigned.Printable) (negative : span.sign < 0)
    (whole : span.secondsPart % 1000 = 0) :
    Token.tokenize span.text =
      .ok [.unaryMinus, .literal (.duration (ofAmounts false span.unsigned.carried))] := by
  have directed := Int.le_of_lt (sign_unsigned negative)
  have wholeSeconds : span.unsigned.secondsPart % 1000 = 0 := by rw [secondsPart_unsigned, whole]
  have unblank := unblank_characters directed wholeSeconds
  let lexemes : List Token.Lexeme :=
    [⟨"-", .unaryMinus, Token.eq_ok_of_toOption (by decide +kernel)⟩,
      ⟨span.unsigned.text, _, tokenize_text printable directed wholeSeconds⟩]
  have written : Token.source span.text = Token.written lexemes := by
    have minus : Token.source "-" = ['-'] := by decide
    rw [Duration.text, characters_unsigned negative,
      Token.source_eq_self (List.forall_mem_cons.mpr ⟨rfl, unblank⟩)]
    change _ = Token.source "-" ++ (Token.source span.unsigned.text ++ [])
    rw [minus, Duration.text, Token.source_eq_self unblank, List.append_nil]
    rfl
  rw [Token.tokenize_eq, written]
  refine Token.scan_written ?_ ?_ (fun lexeme _ => Token.separated_none lexeme.token) 0
  · simp [lexemes, Token.Lexeme.Pointed]
  · simp [lexemes, Token.Lexeme.Joined, Token.isOperand]

end Tokens

section Lengths

variable {span : Duration}

/-- All the units together have fewer than a hundred billion milliseconds. -/
theorem lengthOfAmounts_lt {amount : TimeUnit → Nat} {limit : Nat}
    (bound : ∀ unit, amount unit < limit) : lengthOfAmounts amount < 100000000000 * limit := by
  have year := bound .year
  have month := bound .month
  have week := bound .week
  have day := bound .day
  have hour := bound .hour
  have minute := bound .minute
  have second := bound .second
  have millisecond := bound .millisecond
  rw [lengthOfAmounts_eq]
  omega

theorem hundredBillion_mul_pow_le {digits limit : Nat} (few : 11 + digits ≤ limit) :
    100000000000 * Nat.pow 10 digits ≤ Nat.pow 10 limit := by
  have power := Nat.pow_le_pow_right (by decide : 0 < 10) few
  rwa [Nat.pow_add] at power

theorem fits_of_short {digits : Nat} (positive : 0 < digits)
    (few : 11 + digits ≤ Numeral.digitLimit)
    (short : ∀ unit, (Nat.toDigits 10 (span.magnitude unit)).length ≤ digits) :
    Numeral.Fits span.totalMilliseconds.natAbs := by
  have bound (unit : TimeUnit) : span.magnitude unit < Nat.pow 10 digits :=
    (Nat.length_toDigits_le_iff (by decide) positive).mp (short unit)
  rw [natAbs_totalMilliseconds]
  exact Nat.lt_of_lt_of_le (lengthOfAmounts_lt bound) (hundredBillion_mul_pow_le few)

end Lengths

end Duration

namespace Calculator

variable (clock : Clock) (reads : Nat)

theorem calculate_literal {expression : String} {value : Value}
    (scanned : Token.tokenize expression = .ok [.literal value]) (printable : value.Printable) :
    calculate clock reads expression = ⟨.ok value, reads⟩ := by
  have last := Evaluation.result_singleton printable
  rw [calculate_of_reorder scanned rfl]
  change Outcome.mk (Evaluation.result [value]) reads = _
  rw [last]

theorem calculate_negated {expression : String} {span : Duration}
    (scanned : Token.tokenize expression = .ok [.unaryMinus, .literal (.duration span)])
    (printable : span.negate.Printable) :
    calculate clock reads expression = ⟨.ok (.duration span.negate), reads⟩ := by
  have last : Evaluation.result [.duration span.negate] = .ok (.duration span.negate) :=
    Evaluation.result_singleton printable
  rw [calculate_of_reorder scanned rfl]
  change Outcome.mk (Evaluation.result [.duration span.negate]) reads = _
  rw [last]

section Durations

variable {span : Duration} (fits : Numeral.Fits span.totalMilliseconds.natAbs)
  (whole : span.secondsPart % 1000 = 0)

include fits whole

theorem calculate_text_of_nonneg (directed : 0 ≤ span.sign) :
    calculate clock reads span.text =
      ⟨.ok (.duration (Duration.ofAmounts false span.carried)), reads⟩ := by
  have alike := span.alike_carried
  rw [decide_eq_false (Int.not_lt.mpr directed)] at alike
  refine calculate_literal clock reads
    (Duration.tokenize_text (Duration.printable_of_fits fits) directed whole) ?_
  refine Duration.printable_of_fits ?_
  rwa [alike.totalMilliseconds_eq]

theorem calculate_text_of_neg (negative : span.sign < 0) :
    calculate clock reads span.text =
      ⟨.ok (.duration (Duration.ofMilliseconds span.totalMilliseconds .millisecond)), reads⟩ := by
  have directed := Int.le_of_lt (Duration.sign_unsigned negative)
  have alike := span.unsigned.alike_carried
  rw [decide_eq_false (Int.not_lt.mpr directed)] at alike
  have total : span.totalMilliseconds < 0 := by
    rwa [Duration.sign_eq, Int.sign_neg_iff] at negative
  have negated : (Duration.ofAmounts false span.unsigned.carried).negate =
      Duration.ofMilliseconds span.totalMilliseconds .millisecond := by
    rw [Duration.negate, alike.totalMilliseconds_eq, Duration.totalMilliseconds_unsigned]
    congr 1
    clear fits
    omega
  have printable : span.unsigned.Printable := by
    refine Duration.printable_of_fits ?_
    rwa [Duration.totalMilliseconds_unsigned, Int.natAbs_natCast]
  rw [← negated]
  refine calculate_negated clock reads
    (Duration.tokenize_text_of_neg printable negative whole) (Duration.printable_of_fits ?_)
  rwa [negated, Duration.totalMilliseconds_ofMilliseconds]

end Durations

/-- What is printed is evaluated to the value again: a moment without a fraction of a second as it
is, a duration of whole seconds with its milliseconds carried into the seconds, and a negative one,
whose sign is a minus to the scanner, as so many milliseconds. -/
theorem calculate_printed (clock : Clock) (reads : Nat) :
    (∀ moment : DateTime, moment.microsecond = 0 →
      (Value.dateTime moment).canonical? = some moment.text ∧
      calculate clock reads moment.text = ⟨.ok (.dateTime moment), reads⟩) ∧
    ∀ span : Duration, (1000 * span.get .second + span.get .millisecond) % 1000 = 0 →
      (∀ unit, (Nat.toDigits 10 (span.get unit).natAbs).length ≤ 4000) →
      (Value.duration span).canonical? = some span.text ∧
      (0 ≤ span.sign → ∃ back : Duration,
        calculate clock reads span.text = ⟨.ok (.duration back), reads⟩ ∧
        (∀ unit ∈ [TimeUnit.year, .month, .week, .day, .hour, .minute],
          back.get unit = span.get unit) ∧
        back.get .millisecond = 0 ∧
        back.get .second = (1000 * span.get .second + span.get .millisecond) / 1000) ∧
      (span.sign < 0 → ∃ back : Duration,
        calculate clock reads span.text = ⟨.ok (.duration back), reads⟩ ∧
        (∀ unit, unit ≠ .millisecond → back.get unit = 0) ∧
        back.totalMilliseconds = span.totalMilliseconds) := by
  refine ⟨fun moment whole => ⟨rfl, ?_⟩, fun span whole short => ?_⟩
  · exact calculate_literal clock reads (moment.tokenize_text whole) trivial
  have wholeSeconds : span.secondsPart % 1000 = 0 := by
    rw [Duration.secondsPart_eq]
    omega
  have fits : Numeral.Fits span.totalMilliseconds.natAbs :=
    Duration.fits_of_short (by decide) (by decide) short
  refine ⟨if_pos (Duration.printable_of_fits fits), fun directed => ?_, fun negative => ?_⟩
  · have alike := span.alike_carried
    rw [decide_eq_false (Int.not_lt.mpr directed)] at alike
    have milliseconds : (Duration.ofAmounts false span.carried).get .millisecond = 0 := by
      rw [Duration.get_ofAmounts, Duration.carried, wholeSeconds]
      rfl
    have seconds := alike.seconds
    rw [milliseconds] at seconds
    refine ⟨_, calculate_text_of_nonneg clock reads fits wholeSeconds directed, alike.amounts,
      milliseconds, ?_⟩
    clear fits
    omega
  · refine ⟨_, calculate_text_of_neg clock reads fits wholeSeconds negative, fun unit other => ?_,
      Duration.totalMilliseconds_ofMilliseconds _ _⟩
    refine (Duration.balanced_ofMilliseconds _ .millisecond).above unit ?_
    cases unit with
    | millisecond => exact absurd rfl other
    | _ => decide

/-- A year, three seconds and two thousand milliseconds, in one direction. -/
def overfull (negative : Bool) : Duration :=
  .ofAmounts negative fun
    | .year => 1
    | .second => 3
    | .millisecond => 2000
    | _ => 0

theorem calculate_printed_overfull :
    calculate (fun _ => .earliest) 0 "0001-01-01T00:00:00" = ⟨.ok (.dateTime .earliest), 0⟩ ∧
    (∃ back : Duration,
      calculate (fun _ => .earliest) 0 "P1YT5S" = ⟨.ok (.duration back), 0⟩ ∧
      back.get .year = 1 ∧ back.get .second = 5 ∧ back.get .millisecond = 0) ∧
    ∃ back : Duration,
      calculate (fun _ => .earliest) 0 "-P1YT5S" = ⟨.ok (.duration back), 0⟩ ∧
      back.get .year = 0 ∧ back.totalMilliseconds = -31536005000 := by
  obtain ⟨moments, spans⟩ := calculate_printed (fun _ => .earliest) 0
  have short (negative : Bool) (unit : TimeUnit) :
      (Nat.toDigits 10 ((overfull negative).get unit).natAbs).length ≤ 4000 := by
    cases negative <;> cases unit <;> decide
  have moment : DateTime.earliest.text = "0001-01-01T00:00:00" := by decide +kernel
  have forward : (overfull false).text = "P1YT5S" := by decide +kernel
  have backward : (overfull true).text = "-P1YT5S" := by decide +kernel
  obtain ⟨-, positive, -⟩ := spans (overfull false) (by decide) (short false)
  obtain ⟨later, read, amounts, milliseconds, seconds⟩ := positive (by decide)
  obtain ⟨-, -, negative⟩ := spans (overfull true) (by decide) (short true)
  obtain ⟨earlier, readBack, zero, total⟩ := negative (by decide)
  refine ⟨?_, ⟨later, ?_, amounts .year (by decide), seconds, milliseconds⟩,
    earlier, ?_, zero .year (by decide), total⟩
  · rw [← moment]
    exact (moments .earliest (by decide)).2
  · rw [← forward]
    exact read
  · rw [← backward]
    exact readBack

end Calculator

end DateCalculator
