import DateCalculator.Proofs.DurationSpelling

/-!
The reader of durations accepts exactly what has a spelling, and reads it as it is spelled. A text
with a spelling is refused only for a numeral beyond the length limit.
-/

namespace DateCalculator.Duration

variable {text rest : List Char}

def SecondsComponent.parts (seconds : SecondsComponent) : Seconds :=
  ⟨seconds.numeral.digits, seconds.fraction.elim [] fun fraction => fraction.run.digits⟩

theorem takeSeconds_component (seconds : SecondsComponent) (rest : List Char) :
    takeSeconds (seconds.text ++ rest) = (some seconds.parts, rest) := by
  obtain ⟨numeral, fraction, mark, marked⟩ := seconds
  have letter := isLetter_of_mem_marks 'S' (by decide) mark marked
  have other := not_isDecimalDigit_of_mem_marks 'S' (by decide) mark marked
  rw [SecondsComponent.text, List.append_assoc]
  cases fraction with
  | none =>
      change takeSeconds (numeral.digits ++ mark :: rest) = _
      unfold takeSeconds
      simp only [numeral.takeWhile_append other, numeral.dropWhile_append other]
      rw [if_neg numeral.ne_nil, if_pos letter]
      rfl
  | some fraction =>
      obtain ⟨point, run, pointed⟩ := fraction
      change takeSeconds (numeral.digits ++ point :: ((run.digits ++ [mark]) ++ rest)) = _
      rw [List.append_assoc]
      have unlettered : ¬isLetter 'S' point = true := by
        rcases pointed with rfl | rfl <;> decide
      have parting : Text.isDecimalDigit point = false := by
        rcases pointed with rfl | rfl <;> decide
      unfold takeSeconds
      simp only [numeral.takeWhile_append parting, numeral.dropWhile_append parting]
      rw [if_neg numeral.ne_nil, if_neg unlettered, if_pos pointed]
      simp only [List.singleton_append, run.takeWhile_append other, run.dropWhile_append other]
      exact if_pos ⟨run.ne_nil, letter⟩

theorem takeSeconds_written (given : Option SecondsComponent) (lineEnd : Bool) :
    takeSeconds (given.elim [] SecondsComponent.text ++ lineEndText lineEnd) =
      (given.map SecondsComponent.parts, lineEndText lineEnd) := by
  cases given with
  | none => cases lineEnd <;> rfl
  | some seconds => exact takeSeconds_component seconds _

theorem exists_seconds {given : Option Seconds} (taken : takeSeconds text = (given, rest)) :
    ∃ written : Option SecondsComponent,
      written.elim [] SecondsComponent.text ++ rest = text ∧
        written.map SecondsComponent.parts = given := by
  have whole := List.takeWhile_append_dropWhile (p := Text.isDecimalDigit) (l := text)
  unfold takeSeconds at taken
  dsimp only at taken
  split at taken
  · rename_i mark behind dropped
    rw [dropped] at whole
    by_cases empty : text.takeWhile Text.isDecimalDigit = []
    · rw [if_pos empty] at taken
      cases taken
      exact ⟨none, rfl, rfl⟩
    · rw [if_neg empty] at taken
      let numeral : DigitRun := ⟨_, empty, fun _ => List.mem_takeWhile_imp⟩
      split at taken
      · rename_i letter
        cases taken
        exact ⟨some ⟨numeral, none, mark, mem_marks_of_isLetter letter⟩,
          by simpa [SecondsComponent.text] using whole, rfl⟩
      · split at taken
        · rename_i pointed
          have fraction := List.takeWhile_append_dropWhile (p := Text.isDecimalDigit) (l := behind)
          split at taken
          · rename_i letter last behindFraction
            rw [behindFraction] at fraction
            split at taken
            · rename_i both
              cases taken
              let run : DigitRun := ⟨_, both.1, fun _ => List.mem_takeWhile_imp⟩
              refine ⟨some ⟨numeral, some ⟨mark, run, pointed⟩, letter,
                mem_marks_of_isLetter both.2⟩, ?_, rfl⟩
              rw [← fraction] at whole
              simpa [SecondsComponent.text, Fraction.text] using whole
            · cases taken
              exact ⟨none, rfl, rfl⟩
          · cases taken
            exact ⟨none, rfl, rfl⟩
        · cases taken
          exact ⟨none, rfl, rfl⟩
  · cases taken
    exact ⟨none, rfl, rfl⟩

theorem takeSign_text (sign : Sign) {first : Char} (unsigned : first ≠ '-' ∧ first ≠ '+')
    (rest : List Char) :
    takeSign (sign.text ++ first :: rest) = (decide (sign = .minus), first :: rest) := by
  cases sign with
  | plus => rfl
  | minus => rfl
  | absent =>
      change takeSign (first :: rest) = _
      unfold takeSign
      split
      · rename_i same
        exact absurd (List.cons.inj same).1 unsigned.1
      · rename_i same
        exact absurd (List.cons.inj same).1 unsigned.2
      · rfl

theorem exists_sign {negative : Bool} (taken : takeSign text = (negative, rest)) :
    ∃ sign : Sign, sign.text ++ rest = text ∧ decide (sign = .minus) = negative := by
  unfold takeSign at taken
  split at taken
  · cases taken
    exact ⟨.minus, rfl, rfl⟩
  · cases taken
    exact ⟨.plus, rfl, rfl⟩
  · cases taken
    exact ⟨.absent, rfl, rfl⟩

def BeginsWithDigit (text : List Char) : Prop :=
  ∃ digit rest, text = digit :: rest ∧ Text.isDecimalDigit digit = true

theorem DigitRun.beginsWithDigit (run : DigitRun) (rest : List Char) :
    BeginsWithDigit (run.digits ++ rest) := by
  obtain ⟨digit, behind, same⟩ := List.exists_cons_of_ne_nil run.ne_nil
  refine ⟨digit, behind ++ rest, by rw [same, List.cons_append], run.decimal digit ?_⟩
  rw [same]
  exact List.mem_cons_self

theorem TimeSpelling.beginsWithDigit (time : TimeSpelling) (rest : List Char) :
    BeginsWithDigit (time.body ++ rest) := by
  obtain ⟨mark, hours, minutes, seconds, -, given⟩ := time
  unfold TimeSpelling.body
  cases hours with
  | some hours => simpa [Component.text] using hours.numeral.beginsWithDigit _
  | none =>
      cases minutes with
      | some minutes => simpa [Component.text] using minutes.numeral.beginsWithDigit _
      | none =>
          cases seconds with
          | some seconds => simpa [SecondsComponent.text] using seconds.numeral.beginsWithDigit _
          | none => simp at given

theorem afterT?_eq_some_iff {body : List Char} :
    afterT? text = some body ↔
      ∃ mark, isLetter 'T' mark = true ∧ text = mark :: body ∧ BeginsWithDigit body := by
  constructor
  · intro found
    unfold afterT? at found
    split at found
    · rename_i mark digit behind
      split at found
      · rename_i both
        cases found
        exact ⟨mark, both.1, rfl, digit, behind, rfl, both.2⟩
      · contradiction
    · contradiction
  · rintro ⟨mark, letter, rfl, digit, behind, rfl, decimal⟩
    exact if_pos ⟨letter, decimal⟩

theorem takeTime_written (given : Option TimeSpelling) (lineEnd : Bool) :
    takeTime (given.elim [] TimeSpelling.text ++ lineEndText lineEnd) =
      ((((given.bind TimeSpelling.hours).map Component.numeral).map DigitRun.digits,
        ((given.bind TimeSpelling.minutes).map Component.numeral).map DigitRun.digits,
        (given.bind TimeSpelling.seconds).map SecondsComponent.parts), lineEndText lineEnd) := by
  cases given with
  | none => cases lineEnd <;> rfl
  | some time =>
      have letter := isLetter_of_mem_marks 'T' (by decide) time.mark time.marked
      have behindT : afterT? (time.text ++ lineEndText lineEnd) =
          some (time.body ++ lineEndText lineEnd) :=
        afterT?_eq_some_iff.mpr ⟨time.mark, letter, rfl, time.beginsWithDigit _⟩
      have seconds := (leads_lineEnd lineEnd).seconds time.seconds
      have minutes := seconds.component (by decide) time.minutes
      rw [Option.elim_some, takeTime, behindT]
      simp only [TimeSpelling.body, List.append_assoc]
      rw [takeAmount_written (by decide) time.hours minutes (by decide)]
      dsimp only
      rw [takeAmount_written (by decide) time.minutes seconds (by decide)]
      dsimp only
      rw [takeSeconds_written]
      rfl

theorem eq_none_of_not_given {hours : Option (Component 'H')} {minutes : Option (Component 'M')}
    {seconds : Option SecondsComponent}
    (missing : ¬(hours.isSome ∨ minutes.isSome ∨ seconds.isSome)) :
    hours = none ∧ minutes = none ∧ seconds = none := by
  simpa only [not_or, Bool.not_eq_true, Option.isSome_eq_false_iff, Option.isNone_iff_eq_none]
    using missing

theorem exists_time {hours minutes : Option (List Char)} {seconds : Option Seconds}
    (taken : takeTime text = ((hours, minutes, seconds), rest)) (ended : rest = [] ∨ rest = ['\n']) :
    ∃ time : Option TimeSpelling, time.elim [] TimeSpelling.text ++ rest = text ∧
      ((time.bind TimeSpelling.hours).map Component.numeral).map DigitRun.digits = hours ∧
      ((time.bind TimeSpelling.minutes).map Component.numeral).map DigitRun.digits = minutes ∧
      (time.bind TimeSpelling.seconds).map SecondsComponent.parts = seconds := by
  unfold takeTime at taken
  split at taken
  · cases taken
    exact ⟨none, rfl, rfl, rfl, rfl⟩
  · rename_i body behindT
    obtain ⟨mark, letter, rfl, begins⟩ := afterT?_eq_some_iff.mp behindT
    cases takenHours : takeAmount 'H' body with
    | mk givenHours afterHours =>
    cases takenMinutes : takeAmount 'M' afterHours with
    | mk givenMinutes afterMinutes =>
    cases takenSeconds : takeSeconds afterMinutes with
    | mk givenSeconds afterSeconds =>
    simp only [takenHours, takenMinutes, takenSeconds] at taken
    cases taken
    obtain ⟨writtenHours, hoursText, sameHours⟩ := exists_component takenHours
    obtain ⟨writtenMinutes, minutesText, sameMinutes⟩ := exists_component takenMinutes
    obtain ⟨writtenSeconds, secondsText, sameSeconds⟩ := exists_seconds takenSeconds
    have given : writtenHours.isSome ∨ writtenMinutes.isSome ∨ writtenSeconds.isSome := by
      -- Without an amount the digit behind the letter would have to be the line end.
      by_contra missing
      obtain ⟨rfl, rfl, rfl⟩ := eq_none_of_not_given missing
      obtain ⟨digit, behind, same, decimal⟩ := begins
      have empty : rest = digit :: behind := by
        rw [← same, ← hoursText, ← minutesText, ← secondsText]
        rfl
      rcases ended with rfl | rfl
      · contradiction
      · rw [← (List.cons.inj empty).1] at decimal
        exact absurd decimal (by decide)
    refine ⟨some ⟨mark, writtenHours, writtenMinutes, writtenSeconds,
      mem_marks_of_isLetter letter, given⟩, ?_, sameHours, sameMinutes, sameSeconds⟩
    rw [← hoursText, ← minutesText, ← secondsText]
    simp [TimeSpelling.text, TimeSpelling.body]

namespace Spelling

variable (spelling : Spelling)

/-- The numeral that is written for a unit; a fraction of the seconds is none. -/
def numeral : TimeUnit → Option DigitRun
  | .year => spelling.years.map Component.numeral
  | .month => spelling.months.map Component.numeral
  | .week => spelling.weeks.map Component.numeral
  | .day => spelling.days.map Component.numeral
  | .hour => spelling.hours.map Component.numeral
  | .minute => spelling.minutes.map Component.numeral
  | .second => spelling.seconds.map SecondsComponent.numeral
  | .millisecond => none

/-- No numeral is beyond the length limit. -/
def Short : Prop :=
  ∀ unit, ∀ run ∈ spelling.numeral unit, run.digits.length ≤ Numeral.digitLimit

/-- The magnitude that is written for a unit: the value of its numeral, nothing without one, and the
first three digits of the fraction, filled up with zeros, for the milliseconds. -/
def amount : TimeUnit → Nat
  | .millisecond => (spelling.seconds.bind SecondsComponent.fraction).elim 0 fun fraction =>
      thousandths fraction.run.digits
  | unit => (spelling.numeral unit).elim 0 fun run => Numeral.value run.digits

def parts : Parts where
  negative := spelling.negative
  years := (spelling.numeral .year).map DigitRun.digits
  months := (spelling.numeral .month).map DigitRun.digits
  weeks := (spelling.numeral .week).map DigitRun.digits
  days := (spelling.numeral .day).map DigitRun.digits
  hours := (spelling.numeral .hour).map DigitRun.digits
  minutes := (spelling.numeral .minute).map DigitRun.digits
  seconds := spelling.seconds.map SecondsComponent.parts

theorem anyGiven_parts : spelling.parts.anyGiven = true := by
  have time : spelling.time.isSome = true →
      spelling.hours.isSome ∨ spelling.minutes.isSome ∨ spelling.seconds.isSome := by
    intro present
    obtain ⟨time, same⟩ := Option.isSome_iff_exists.mp present
    simpa [hours, minutes, seconds, same] using time.given
  simp only [Parts.anyGiven, parts, numeral, Option.isSome_map, Bool.or_eq_true, or_assoc]
  rcases spelling.given with years | months | weeks | days | present
  · exact .inl years
  · exact .inr (.inl months)
  · exact .inr (.inr (.inl weeks))
  · exact .inr (.inr (.inr (.inl days)))
  · exact .inr (.inr (.inr (.inr (time present))))

theorem parts?_text : parts? spelling.text = some spelling.parts := by
  have letter := isLetter_of_mem_marks 'P' (by decide) spelling.mark spelling.marked
  have unsigned : spelling.mark ≠ '-' ∧ spelling.mark ≠ '+' := by
    have either : spelling.mark = 'P' ∨ spelling.mark = 'p' := by
      simpa [marks] using spelling.marked
    rcases either with same | same <;> rw [same] <;> decide
  have ended : lineEndText spelling.lineEnd = [] ∨ lineEndText spelling.lineEnd = ['\n'] := by
    cases spelling.lineEnd with
    | false => exact .inl rfl
    | true => exact .inr rfl
  have time := leads_time spelling.time spelling.lineEnd
  have days := time.component (by decide) spelling.days
  have weeks := days.component (by decide) spelling.weeks
  have months := weeks.component (by decide) spelling.months
  unfold parts?
  rw [text, takeSign_text _ unsigned]
  simp only [List.append_assoc]
  rw [takeAmount_written (by decide) spelling.years months (by decide)]
  dsimp only
  rw [takeAmount_written (by decide) spelling.months weeks (by decide)]
  dsimp only
  rw [takeAmount_written (by decide) spelling.weeks days (by decide)]
  dsimp only
  rw [takeAmount_written (by decide) spelling.days time (by decide)]
  dsimp only
  rw [takeTime_written]
  exact if_pos ⟨letter, spelling.anyGiven_parts, ended⟩

end Spelling

theorem exists_spelling {parts : Parts} (found : parts? text = some parts) :
    ∃ spelling : Spelling, spelling.text = text ∧ spelling.parts = parts := by
  unfold parts? at found
  split at found
  · rename_i negative letter afterP takenSign
    cases takenYears : takeAmount 'Y' afterP with
    | mk givenYears afterYears =>
    cases takenMonths : takeAmount 'M' afterYears with
    | mk givenMonths afterMonths =>
    cases takenWeeks : takeAmount 'W' afterMonths with
    | mk givenWeeks afterWeeks =>
    cases takenDays : takeAmount 'D' afterWeeks with
    | mk givenDays afterDays =>
    rcases takenTime : takeTime afterDays with ⟨⟨givenHours, givenMinutes, givenSeconds⟩, left⟩
    simp only [takenYears, takenMonths, takenWeeks, takenDays, takenTime] at found
    split at found
    · rename_i valid
      cases found
      obtain ⟨marked, given, ended⟩ := valid
      obtain ⟨sign, signText, sameSign⟩ := exists_sign takenSign
      obtain ⟨years, yearsText, sameYears⟩ := exists_component takenYears
      obtain ⟨months, monthsText, sameMonths⟩ := exists_component takenMonths
      obtain ⟨weeks, weeksText, sameWeeks⟩ := exists_component takenWeeks
      obtain ⟨days, daysText, sameDays⟩ := exists_component takenDays
      obtain ⟨time, timeText, sameHours, sameMinutes, sameSeconds⟩ := exists_time takenTime ended
      subst sameSign sameYears sameMonths sameWeeks sameDays sameHours sameMinutes sameSeconds
      have present : years.isSome ∨ months.isSome ∨ weeks.isSome ∨ days.isSome ∨ time.isSome := by
        cases time with
        | some time => simp
        | none => simpa [Parts.anyGiven, or_assoc] using given
      obtain ⟨lineEnd, rfl⟩ : ∃ lineEnd, lineEndText lineEnd = left := by
        rcases ended with rfl | rfl
        · exact ⟨false, rfl⟩
        · exact ⟨true, rfl⟩
      refine ⟨⟨sign, letter, years, months, weeks, days, time, lineEnd,
        mem_marks_of_isLetter marked, present⟩, ?_, rfl⟩
      rw [← signText, ← yearsText, ← monthsText, ← weeksText, ← daysText, ← timeText]
      simp only [Spelling.text, List.append_assoc]
    · contradiction
  · contradiction

theorem amount?_of_short {given : Option DigitRun}
    (short : ∀ run ∈ given, run.digits.length ≤ Numeral.digitLimit) :
    amount? (given.map DigitRun.digits) =
      some (given.elim 0 fun run => Numeral.value run.digits) := by
  cases given with
  | none => rfl
  | some run => exact if_pos (short run rfl)

theorem short_of_amount? {given : Option DigitRun} {value : Nat}
    (found : amount? (given.map DigitRun.digits) = some value) :
    ∀ run ∈ given, run.digits.length ≤ Numeral.digitLimit := by
  rintro run ⟨⟩
  by_contra long
  have refused : amount? (some run.digits) = none := if_neg long
  rw [Option.map_some, refused] at found
  contradiction

namespace Spelling

variable {spelling : Spelling}

theorem wholes_parts : spelling.parts.seconds.map Seconds.whole =
    (spelling.numeral .second).map DigitRun.digits := by
  simp only [parts, numeral, Option.map_map]
  rfl

theorem thousandths_parts :
    (spelling.parts.seconds.map fun seconds => thousandths seconds.fraction).getD 0 =
      spelling.amount .millisecond := by
  simp only [parts, amount]
  rcases spelling.seconds with _ | ⟨_, _ | fraction, _, _⟩ <;> rfl

theorem ofParts?_of_short (short : spelling.Short) :
    ofParts? spelling.parts = some (ofAmounts spelling.negative spelling.amount) := by
  have amounts (unit : TimeUnit) := amount?_of_short (short unit)
  have years : amount? spelling.parts.years = _ := amounts .year
  have months : amount? spelling.parts.months = _ := amounts .month
  have weeks : amount? spelling.parts.weeks = _ := amounts .week
  have days : amount? spelling.parts.days = _ := amounts .day
  have hours : amount? spelling.parts.hours = _ := amounts .hour
  have minutes : amount? spelling.parts.minutes = _ := amounts .minute
  simp only [ofParts?, years, months, weeks, days, hours, minutes, wholes_parts, amounts .second,
    thousandths_parts, Option.bind_eq_bind, Option.bind_some]
  refine congrArg (fun amount => some (ofAmounts spelling.negative amount)) (funext fun unit => ?_)
  cases unit <;> rfl

theorem short_of_ofParts? {span : Duration} (found : ofParts? spelling.parts = some span) :
    spelling.Short := by
  simp only [ofParts?, wholes_parts, Option.bind_eq_bind, Option.bind_eq_some_iff] at found
  obtain ⟨_, years, _, months, _, weeks, _, days, _, hours, _, minutes, _, seconds, -⟩ := found
  intro unit
  cases unit with
  | year => exact short_of_amount? years
  | month => exact short_of_amount? months
  | week => exact short_of_amount? weeks
  | day => exact short_of_amount? days
  | hour => exact short_of_amount? hours
  | minute => exact short_of_amount? minutes
  | second => exact short_of_amount? seconds
  | millisecond => exact nofun

end Spelling

section Read

variable {spelling : Spelling} {text : String}

theorem read_of_short (spelled : spelling.text = text.toList) (short : spelling.Short) :
    read text = .ok (ofAmounts spelling.negative spelling.amount) := by
  rw [read, ← spelled, spelling.parts?_text]
  dsimp only
  rw [spelling.ofParts?_of_short short]

theorem read_of_long (spelled : spelling.text = text.toList) (long : ¬spelling.Short) :
    read text = .error .numeralTooLong := by
  rw [read, ← spelled, spelling.parts?_text]
  dsimp only
  cases found : ofParts? spelling.parts with
  | none => rfl
  | some span => exact absurd (spelling.short_of_ofParts? found) long

theorem read_of_unspelled (unspelled : ¬∃ spelling : Spelling, spelling.text = text.toList) :
    read text = .error (.malformed text) := by
  rw [read]
  cases found : parts? text.toList with
  | none => rfl
  | some parts =>
      obtain ⟨spelling, spelled, -⟩ := exists_spelling found
      exact absurd ⟨spelling, spelled⟩ unspelled

/-- What reading a text can come to. -/
inductive Reading (text : String) : Except ReadError Duration → Prop
  | spelled (spelling : Spelling) : spelling.text = text.toList → spelling.Short →
      Reading text (.ok (ofAmounts spelling.negative spelling.amount))
  | long (spelling : Spelling) : spelling.text = text.toList → ¬spelling.Short →
      Reading text (.error .numeralTooLong)
  | unspelled : (¬∃ spelling : Spelling, spelling.text = text.toList) →
      Reading text (.error (.malformed text))

theorem reading_read (text : String) : Reading text (read text) := by
  by_cases spelled : ∃ spelling : Spelling, spelling.text = text.toList
  · obtain ⟨spelling, same⟩ := spelled
    by_cases short : spelling.Short
    · rw [read_of_short same short]
      exact .spelled spelling same short
    · rw [read_of_long same short]
      exact .long spelling same short
  · rw [read_of_unspelled spelled]
    exact .unspelled spelled

end Read

/-- A text is read exactly if it has a spelling whose numerals are within the length limit, and then
as the duration that is spelled. Without a spelling it is malformed, and with longer numerals it is
refused for them. -/
theorem read_eq_spelled (text : String) :
    (∀ span, read text = .ok span ↔ ∃ spelling : Spelling, spelling.text = text.toList ∧
      spelling.Short ∧ ∀ unit, span.get unit = signed spelling.negative (spelling.amount unit)) ∧
    (read text = .error .numeralTooLong ↔
      ∃ spelling : Spelling, spelling.text = text.toList ∧ ¬spelling.Short) ∧
    (read text = .error (.malformed text) ↔
      ¬∃ spelling : Spelling, spelling.text = text.toList) := by
  have reading := reading_read text
  refine ⟨fun span => ⟨fun found => ?_, ?_⟩, ⟨fun refused => ?_, ?_⟩,
    ⟨fun refused => ?_, read_of_unspelled⟩⟩
  · rw [found] at reading
    cases reading with
    | spelled spelling same short =>
        exact ⟨spelling, same, short, get_ofAmounts spelling.negative spelling.amount⟩
  · rintro ⟨spelling, same, short, amounts⟩
    have equal : span = ofAmounts spelling.negative spelling.amount :=
      eq_of_get fun unit => (amounts unit).trans (get_ofAmounts _ _ unit).symm
    rw [equal]
    exact read_of_short same short
  · rw [refused] at reading
    cases reading with
    | long spelling same long => exact ⟨spelling, same, long⟩
  · rintro ⟨spelling, same, long⟩
    exact read_of_long same long
  · rw [refused] at reading
    cases reading with
    | unspelled unspelled => exact unspelled

end DateCalculator.Duration
