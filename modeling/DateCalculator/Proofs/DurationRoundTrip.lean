import DateCalculator.Proofs.DurationReading
import DateCalculator.Proofs.NumeralText

/-!
The text of a duration is read back as the same duration, up to the milliseconds that make up whole
seconds. So two durations have one text exactly if they differ in nothing else.
-/

namespace DateCalculator.Duration

/-- Equal up to how the milliseconds are split from the seconds. -/
structure Alike (first second : Duration) : Prop where
  amounts : ∀ unit ∈ [TimeUnit.year, .month, .week, .day, .hour, .minute],
    first.get unit = second.get unit
  seconds : 1000 * first.get .second + first.get .millisecond =
    1000 * second.get .second + second.get .millisecond

namespace Alike

variable {first second third : Duration}

protected theorem symm (alike : Alike first second) : Alike second first :=
  ⟨fun unit member => (alike.amounts unit member).symm, alike.seconds.symm⟩

protected theorem trans (before : Alike first second) (after : Alike second third) :
    Alike first third :=
  ⟨fun unit member => (before.amounts unit member).trans (after.amounts unit member),
    before.seconds.trans after.seconds⟩

end Alike

theorem mem_marks (designator : Char) : designator ∈ marks designator := by
  unfold marks
  split
  · rename_i same
    rw [same]
    decide
  · exact List.mem_cons_self

def DigitRun.ofNat (number : Nat) : DigitRun where
  digits := Nat.toDigits 10 number
  ne_nil := Nat.toDigits_ne_nil
  decimal := fun digit member =>
    Text.isDecimalDigit_of_isDigit (Numeral.isDigit_of_mem_toDigits digit member)

def Component.ofNat? (designator : Char) (amount : Nat) : Option (Component designator) :=
  if amount = 0 then none else some ⟨.ofNat amount, designator, mem_marks designator⟩

section Component

variable {designator : Char} {amount : Nat}

theorem text_component (designator : Char) (amount : Nat) :
    (Component.ofNat? designator amount).elim [] Component.text = part amount designator := by
  unfold Component.ofNat? part
  split <;> rfl

theorem value_component (designator : Char) (amount : Nat) :
    (((Component.ofNat? designator amount).map Component.numeral).elim 0 fun run =>
      Numeral.value run.digits) = amount := by
  unfold Component.ofNat?
  split
  · rename_i zero
    exact zero.symm
  · exact Numeral.value_toDigits amount

theorem short_component (fits : Numeral.Fits amount) :
    ∀ run ∈ (Component.ofNat? designator amount).map Component.numeral,
      run.digits.length ≤ Numeral.digitLimit := by
  intro run written
  unfold Component.ofNat? at written
  split at written
  · cases written
  · cases written
    exact Numeral.fits_iff_length_le.mp fits

theorem isSome_component : (Component.ofNat? designator amount).isSome = true ↔ amount ≠ 0 := by
  unfold Component.ofNat?
  split <;> simp_all

end Component

section Seconds

variable {count : Nat}

theorem thousandths_fraction {number : Nat} (bound : number < 1000) :
    thousandths (Numeral.fraction 3 number) = number := by
  rw [thousandths, Numeral.take_fraction (by decide) bound, Numeral.value_padded]

def Fraction.ofNat (count : Nat) (nonzero : count % 1000 ≠ 0) : Fraction where
  point := '.'
  run := {
    digits := Numeral.fraction 3 (count % 1000)
    ne_nil := by
      intro empty
      have back := thousandths_fraction (Nat.mod_lt count (by decide : 0 < 1000))
      rw [empty] at back
      exact nonzero back.symm
    decimal := fun digit member => Text.isDecimalDigit_of_isDigit
      (Numeral.isDigit_of_mem_padded digit (Numeral.mem_of_mem_withoutTrailingZeros member)) }
  pointed := .inl rfl

def SecondsComponent.ofNat? (count : Nat) : Option SecondsComponent :=
  if nonzero : count % 1000 ≠ 0 then
    some ⟨.ofNat (count / 1000), some (.ofNat count nonzero), 'S', mem_marks 'S'⟩
  else if count / 1000 = 0 then none
  else some ⟨.ofNat (count / 1000), none, 'S', mem_marks 'S'⟩

theorem text_seconds (count : Nat) :
    (SecondsComponent.ofNat? count).elim [] SecondsComponent.text = secondsText count := by
  unfold SecondsComponent.ofNat? secondsText part
  by_cases whole : count % 1000 = 0
  · rw [dif_neg (not_not_intro whole), if_pos whole]
    split <;> rfl
  · rw [dif_pos whole, if_neg whole]
    exact (List.append_assoc _ _ _).symm

theorem value_seconds (count : Nat) :
    (((SecondsComponent.ofNat? count).map SecondsComponent.numeral).elim 0 fun run =>
      Numeral.value run.digits) = count / 1000 := by
  unfold SecondsComponent.ofNat?
  split
  · exact Numeral.value_toDigits _
  · split
    · rename_i zero
      exact zero.symm
    · exact Numeral.value_toDigits _

theorem thousandths_seconds (count : Nat) :
    (((SecondsComponent.ofNat? count).bind SecondsComponent.fraction).elim 0 fun fraction =>
      thousandths fraction.run.digits) = count % 1000 := by
  unfold SecondsComponent.ofNat?
  split
  · exact thousandths_fraction (Nat.mod_lt count (by decide))
  · rename_i whole
    split <;> exact (not_not.mp whole).symm

theorem short_seconds (fits : Numeral.Fits (count / 1000)) :
    ∀ run ∈ (SecondsComponent.ofNat? count).map SecondsComponent.numeral,
      run.digits.length ≤ Numeral.digitLimit := by
  intro run written
  unfold SecondsComponent.ofNat? at written
  split at written
  · cases written
    exact Numeral.fits_iff_length_le.mp fits
  · split at written
    · cases written
    · cases written
      exact Numeral.fits_iff_length_le.mp fits

theorem isSome_seconds : (SecondsComponent.ofNat? count).isSome = true ↔ count ≠ 0 := by
  unfold SecondsComponent.ofNat?
  split
  · simp only [Option.isSome_some, true_iff]
    omega
  · split
    · simp only [Option.isSome_none, Bool.false_eq_true, false_iff]
      omega
    · simp only [Option.isSome_some, true_iff]
      omega

end Seconds

section Time

variable (hours : Option (Component 'H')) (minutes : Option (Component 'M'))
  (seconds : Option SecondsComponent)

def TimeSpelling.of? : Option TimeSpelling :=
  if given : hours.isSome ∨ minutes.isSome ∨ seconds.isSome then
    some ⟨'T', hours, minutes, seconds, mem_marks 'T', given⟩
  else none

theorem isSome_time : (TimeSpelling.of? hours minutes seconds).isSome = true ↔
    hours.isSome ∨ minutes.isSome ∨ seconds.isSome := by
  unfold TimeSpelling.of?
  split <;> simp_all

theorem bind_time :
    (TimeSpelling.of? hours minutes seconds).bind TimeSpelling.hours = hours ∧
    (TimeSpelling.of? hours minutes seconds).bind TimeSpelling.minutes = minutes ∧
    (TimeSpelling.of? hours minutes seconds).bind TimeSpelling.seconds = seconds := by
  unfold TimeSpelling.of?
  split
  · exact ⟨rfl, rfl, rfl⟩
  · rename_i missing
    obtain ⟨rfl, rfl, rfl⟩ := eq_none_of_not_given missing
    exact ⟨rfl, rfl, rfl⟩

theorem text_time {body : List Char}
    (written : hours.elim [] Component.text ++ minutes.elim [] Component.text ++
      seconds.elim [] SecondsComponent.text = body) :
    (TimeSpelling.of? hours minutes seconds).elim [] TimeSpelling.text =
      if body = [] then [] else 'T' :: body := by
  subst written
  unfold TimeSpelling.of?
  split
  · rename_i given
    let time : TimeSpelling := ⟨'T', hours, minutes, seconds, mem_marks 'T', given⟩
    obtain ⟨digit, rest, begins, -⟩ := time.beginsWithDigit []
    have body : time.body ≠ [] := by
      rw [← List.append_nil time.body, begins]
      exact List.cons_ne_nil digit rest
    exact (if_neg body).symm
  · rename_i missing
    obtain ⟨rfl, rfl, rfl⟩ := eq_none_of_not_given missing
    rfl

end Time

theorem magnitude_eq_zero {span : Duration} (zero : span.sign = 0) (unit : TimeUnit) :
    span.magnitude unit = 0 := by
  have length := sign_eq_zero_iff.mp zero
  have bound := amount_le_lengthOfAmounts span.magnitude unit
  omega

/-- The magnitudes with the milliseconds carried into the seconds. -/
def carried (span : Duration) : TimeUnit → Nat
  | .second => span.secondsPart / 1000
  | .millisecond => span.secondsPart % 1000
  | unit => span.magnitude unit

/-- Zero is spelled with its seconds, since a spelling needs an amount. -/
def zeroSpelling : Spelling where
  sign := .absent
  mark := 'P'
  years := none
  months := none
  weeks := none
  days := none
  time := TimeSpelling.of? none none (some ⟨.ofNat 0, none, 'S', mem_marks 'S'⟩)
  lineEnd := false
  marked := mem_marks 'P'
  given := by decide

theorem amount_zeroSpelling {span : Duration} (zero : span.sign = 0) (unit : TimeUnit) :
    zeroSpelling.amount unit = span.carried unit := by
  have nothing := magnitude_eq_zero zero
  have seconds : span.secondsPart = 0 := by rw [secondsPart, nothing, nothing]
  cases unit <;> simp only [carried, nothing, seconds] <;> rfl

section Canonical

variable (span : Duration)

def timeSpelling : Option TimeSpelling :=
  TimeSpelling.of? (Component.ofNat? 'H' (span.magnitude .hour))
    (Component.ofNat? 'M' (span.magnitude .minute)) (SecondsComponent.ofNat? span.secondsPart)

theorem given_of_sign_ne_zero {span : Duration} (nonzero : span.sign ≠ 0) :
    (Component.ofNat? 'Y' (span.magnitude .year)).isSome ∨
    (Component.ofNat? 'M' (span.magnitude .month)).isSome ∨
    (Component.ofNat? 'W' (span.magnitude .week)).isSome ∨
    (Component.ofNat? 'D' (span.magnitude .day)).isSome ∨ span.timeSpelling.isSome := by
  rw [timeSpelling, isSome_time]
  simp only [isSome_component, isSome_seconds, secondsPart]
  by_contra missing
  refine nonzero (sign_eq_zero_iff.mpr ?_)
  rw [lengthOfAmounts_eq]
  omega

def spelling (nonzero : span.sign ≠ 0) : Spelling where
  sign := if span.sign < 0 then .minus else .absent
  mark := 'P'
  years := Component.ofNat? 'Y' (span.magnitude .year)
  months := Component.ofNat? 'M' (span.magnitude .month)
  weeks := Component.ofNat? 'W' (span.magnitude .week)
  days := Component.ofNat? 'D' (span.magnitude .day)
  time := span.timeSpelling
  lineEnd := false
  marked := mem_marks 'P'
  given := given_of_sign_ne_zero nonzero

variable {span} (nonzero : span.sign ≠ 0)

theorem text_spelling : (span.spelling nonzero).text = span.characters := by
  have sign : (if span.sign < 0 then Sign.minus else Sign.absent).text =
      if span.sign < 0 then ['-'] else [] := by
    split <;> rfl
  have time : span.timeSpelling.elim [] TimeSpelling.text =
      if span.timeText = [] then [] else 'T' :: span.timeText := by
    refine text_time _ _ _ ?_
    rw [text_component, text_component, text_seconds, timeText]
  rw [characters, if_neg nonzero, Spelling.text]
  simp only [spelling, sign, time, text_component, dateText, lineEndText, Bool.false_eq_true,
    if_false, List.append_nil, List.cons_append, List.append_assoc]

theorem negative_spelling : (span.spelling nonzero).negative = decide (span.sign < 0) := by
  simp only [Spelling.negative, spelling]
  split <;> simp_all

theorem time_spelling :
    (span.spelling nonzero).hours = Component.ofNat? 'H' (span.magnitude .hour) ∧
    (span.spelling nonzero).minutes = Component.ofNat? 'M' (span.magnitude .minute) ∧
    (span.spelling nonzero).seconds = SecondsComponent.ofNat? span.secondsPart :=
  bind_time _ _ _

theorem amount_spelling (unit : TimeUnit) :
    (span.spelling nonzero).amount unit = span.carried unit := by
  obtain ⟨hours, minutes, seconds⟩ := time_spelling nonzero
  cases unit with
  | second => simp only [Spelling.amount, Spelling.numeral, seconds, value_seconds, carried]
  | millisecond => simp only [Spelling.amount, seconds, thousandths_seconds, carried]
  | hour => simp only [Spelling.amount, Spelling.numeral, hours, value_component, carried]
  | minute => simp only [Spelling.amount, Spelling.numeral, minutes, value_component, carried]
  | _ => exact value_component _ _

theorem short_spelling (printable : span.Printable) : (span.spelling nonzero).Short := by
  obtain ⟨hours, minutes, seconds⟩ := time_spelling nonzero
  obtain ⟨amounts, wholeSeconds⟩ := printable
  intro unit
  cases unit with
  | second =>
      rw [Spelling.numeral, seconds]
      exact short_seconds wholeSeconds
  | millisecond => exact fun run written => absurd written (Option.not_mem_none run)
  | hour =>
      rw [Spelling.numeral, hours]
      exact short_component (amounts .hour (by decide))
  | minute =>
      rw [Spelling.numeral, minutes]
      exact short_component (amounts .minute (by decide))
  | year => exact short_component (amounts .year (by decide))
  | month => exact short_component (amounts .month (by decide))
  | week => exact short_component (amounts .week (by decide))
  | day => exact short_component (amounts .day (by decide))

end Canonical

/-- The text is the spelling of the amounts with the milliseconds carried into the seconds. -/
theorem exists_spelling_characters {span : Duration} (printable : span.Printable) :
    ∃ spelling : Spelling, spelling.text = span.characters ∧ spelling.Short ∧
      spelling.negative = decide (span.sign < 0) ∧ spelling.amount = span.carried := by
  by_cases zero : span.sign = 0
  · refine ⟨zeroSpelling, ?_, ?_, ?_, funext (amount_zeroSpelling zero)⟩
    · rw [characters, if_pos zero]
      decide
    · intro unit
      cases unit <;> decide
    · rw [zero]
      decide
  · exact ⟨span.spelling zero, text_spelling zero, short_spelling zero printable,
      negative_spelling zero, funext (amount_spelling zero)⟩

theorem read_text {span : Duration} (printable : span.Printable) :
    read span.text = .ok (ofAmounts (span.sign < 0) span.carried) := by
  obtain ⟨spelling, spelled, short, negative, amounts⟩ := exists_spelling_characters printable
  have text : spelling.text = span.text.toList := by
    rw [spelled, Duration.text, String.toList_ofList]
  rw [read_of_short text short, negative, amounts]

theorem signed_seconds (negative : Bool) (seconds milliseconds : Nat) :
    1000 * signed negative seconds + signed negative milliseconds =
      signed negative (seconds * 1000 + milliseconds) := by
  have scaled := mul_signed negative seconds 1000
  rw [Nat.mul_comm, ← signed_add, ← scaled]
  rfl

theorem secondsPart_eq (span : Duration) :
    span.secondsPart = (1000 * span.get .second + span.get .millisecond).natAbs := by
  rw [get_eq_signed, get_eq_signed, signed_seconds, natAbs_signed, secondsPart]

theorem alike_carried (span : Duration) :
    Alike (ofAmounts (span.sign < 0) span.carried) span := by
  constructor
  · intro unit member
    rw [get_ofAmounts, get_eq_signed span unit]
    cases unit with
    | second | millisecond => exact absurd member (by decide)
    | _ => rfl
  · rw [get_ofAmounts, get_ofAmounts, get_eq_signed span, get_eq_signed span, signed_seconds,
      signed_seconds]
    exact congrArg (signed (span.sign < 0)) (Nat.div_add_mod' span.secondsPart 1000)

namespace Alike

variable {first second : Duration} (alike : Alike first second)

include alike

theorem secondsPart_eq : first.secondsPart = second.secondsPart := by
  rw [Duration.secondsPart_eq, Duration.secondsPart_eq, alike.seconds]

theorem totalMilliseconds_eq : first.totalMilliseconds = second.totalMilliseconds := by
  have seconds := alike.seconds
  rw [Duration.totalMilliseconds_eq, Duration.totalMilliseconds_eq]
  rw [alike.amounts .year (by decide), alike.amounts .month (by decide),
    alike.amounts .week (by decide), alike.amounts .day (by decide),
    alike.amounts .hour (by decide), alike.amounts .minute (by decide)]
  omega

theorem sign_eq : first.sign = second.sign := by
  -- The largest units can differ, but the lengths cannot.
  rw [Duration.sign_eq, Duration.sign_eq, alike.totalMilliseconds_eq]

theorem text_eq : first.text = second.text := by
  have magnitude (unit : TimeUnit)
      (member : unit ∈ [TimeUnit.year, .month, .week, .day, .hour, .minute]) :
      first.magnitude unit = second.magnitude unit :=
    congrArg Int.natAbs (alike.amounts unit member)
  have date : first.dateText = second.dateText := by
    rw [dateText, dateText, magnitude .year (by decide), magnitude .month (by decide),
      magnitude .week (by decide), magnitude .day (by decide)]
  have time : first.timeText = second.timeText := by
    rw [timeText, timeText, magnitude .hour (by decide), magnitude .minute (by decide),
      alike.secondsPart_eq]
  rw [text, text, characters, characters, alike.sign_eq, date, time]

end Alike

/-- A printed duration is read back, alike and with the same text, and durations share their text
exactly if they are alike. -/
theorem text_round_trip (span : Duration) (printable : span.Printable) :
    (∃ back, read span.text = .ok back ∧ Alike back span ∧
      (back.get .millisecond).natAbs < 1000 ∧ back.text = span.text) ∧
    ∀ other : Duration, other.Printable → (span.text = other.text ↔ Alike span other) := by
  refine ⟨⟨_, read_text printable, span.alike_carried, ?_, span.alike_carried.text_eq⟩,
    fun other printableOther => ⟨fun same => ?_, Alike.text_eq⟩⟩
  · rw [get_ofAmounts, natAbs_signed]
    exact Nat.mod_lt span.secondsPart (by decide)
  · have back := read_text printable
    rw [same, read_text printableOther] at back
    injection back with equal
    have middle := other.alike_carried
    rw [equal] at middle
    exact span.alike_carried.symm.trans middle

/-- A year, a second and two and a half thousand milliseconds, all negative. -/
def uncarried : Duration :=
  ofAmounts true fun
    | .year => 1
    | .second => 1
    | .millisecond => 2500
    | _ => 0

theorem text_round_trip_uncarried : uncarried.Printable ∧ uncarried.text = "-P1YT3.5S" ∧
    (∃ back, read uncarried.text = .ok back ∧ Alike back uncarried ∧
      (back.get .millisecond).natAbs < 1000 ∧ back.text = uncarried.text) ∧
    ofAmounts true uncarried.carried ≠ uncarried ∧
    Alike uncarried (ofAmounts true uncarried.carried) := by
  have printable : uncarried.Printable := by decide +kernel
  obtain ⟨back, same⟩ := text_round_trip uncarried printable
  have alike := (same (ofAmounts true uncarried.carried) (by decide +kernel)).mp (by decide +kernel)
  exact ⟨printable, by decide +kernel, back, by decide, alike⟩

end DateCalculator.Duration
