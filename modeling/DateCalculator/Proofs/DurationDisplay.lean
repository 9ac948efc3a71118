import DateCalculator.Proofs.DisplayedAmounts
import DateCalculator.Proofs.FinerUnits

/-!
What the display of a duration tells. It lists the amounts of the rounded length in days, hours,
minutes and seconds, from which that length is read back. So two durations look the same exactly if
their lengths round to the same second.
-/

namespace DateCalculator

namespace Duration

/-- The length in seconds, half a second rounded away from zero. -/
def wholeSeconds (span : Duration) : Int := span.roundedLength 1000 / 1000

theorem roundsTo_wholeSeconds (span : Duration) :
    RoundsTo 1000 span.totalMilliseconds (1000 * span.wholeSeconds) := by
  have rounds : RoundsTo 1000 span.totalMilliseconds (span.roundedLength 1000) :=
    span.roundsTo_roundedLength (by decide)
  have multiple : (1000 : Int) ∣ span.roundedLength 1000 := rounds.multiple
  rwa [wholeSeconds, Int.mul_ediv_cancel' multiple]

theorem round_second_eq (span : Duration) :
    span.round .second .day = ofMilliseconds (1000 * span.wholeSeconds) .day :=
  span.round_eq_of_roundsTo .second .day span.roundsTo_wholeSeconds

end Duration

namespace Presentation

variable {span : Duration}

theorem mem_amounts {part : TimeUnit × Nat} (member : part ∈ amounts span) :
    part.1 ∈ displayUnits ∧ part.2 = span.magnitude part.1 ∧ part.2 ≠ 0 := by
  obtain ⟨among, nonzero⟩ := List.mem_filter.mp member
  obtain ⟨unit, displayed, rfl⟩ := List.mem_map.mp among
  exact ⟨displayed, rfl, by simpa using nonzero⟩

theorem listed_amounts (balanced : span.DayBalanced) : Listed (amounts span) where
  ordered := by
    have sublist := (List.filter_sublist (p := fun part => decide (part.2 ≠ 0))
      (l := displayUnits.map fun unit => (unit, span.magnitude unit))).map Prod.fst
    rw [List.map_map] at sublist
    exact sublist
  nonzero part member := (mem_amounts member).2.2
  hours amount member := by
    have same : amount = span.magnitude .hour := (mem_amounts member).2.1
    rw [same]
    exact balanced.hours
  minutes amount member := by
    have same : amount = span.magnitude .minute := (mem_amounts member).2.1
    rw [same]
    exact balanced.minutes
  seconds amount member := by
    have same : amount = span.magnitude .second := (mem_amounts member).2.1
    rw [same]
    exact balanced.seconds

/-- The displayed amounts of whole seconds add up to them. -/
theorem secondsOver_amounts (seconds : Int) :
    secondsOver (amounts (Duration.ofMilliseconds (1000 * seconds) .day)) = seconds.natAbs := by
  have balanced := Duration.balanced_ofMilliseconds (1000 * seconds) .day
  have length := Duration.totalMilliseconds_ofMilliseconds (1000 * seconds) .day
  generalize Duration.ofMilliseconds (1000 * seconds) .day = span at balanced length
  have bounds := Duration.dayBalanced_of_balanced balanced
  have longer (unit : TimeUnit) (above : TimeUnit.day.length < unit.length) :
      span.magnitude unit = 0 := Int.natAbs_eq_zero.mpr (bounds.longer unit above)
  have total := span.natAbs_totalMilliseconds
  have milliseconds := bounds.milliseconds
  rw [length, Duration.lengthOfAmounts_eq, longer .year (by decide), longer .month (by decide),
    longer .week (by decide)] at total
  have day : TimeUnit.day.length / 1000 = 86400 := by decide
  have hour : TimeUnit.hour.length / 1000 = 3600 := by decide
  have minute : TimeUnit.minute.length / 1000 = 60 := by decide
  have second : TimeUnit.second.length / 1000 = 1 := by decide
  rw [amounts, secondsOver_filter]
  simp only [displayUnits, List.map_cons, List.map_nil, secondsOver_cons, day, hour, minute, second]
  change _ * 86400 + (_ * 3600 + (_ * 60 + (_ * 1 + 0))) = _
  omega

theorem localizeDuration_of_zero (zero : span.wholeSeconds = 0) :
    localizeDuration .americanEnglish span = .ok "0 sec" := by
  unfold localizeDuration
  rw [span.round_second_eq, zero]
  decide +kernel

theorem localizeDuration_of_ne (few : (span.round .second .day).magnitude .day < dayLimit)
    (nonzero : span.wholeSeconds ≠ 0) :
    amounts (span.round .second .day) ≠ [] ∧
    localizeDuration .americanEnglish span =
      .ok (shown (span.wholeSeconds < 0) (amounts (span.round .second .day))) := by
  have seconds := secondsOver_amounts span.wholeSeconds
  have sign : (span.round .second .day).sign < 0 ↔ span.wholeSeconds < 0 := by
    rw [span.round_second_eq, Duration.sign_eq, Duration.totalMilliseconds_ofMilliseconds,
      Int.sign_neg_iff]
    omega
  rw [← span.round_second_eq] at seconds
  simp only [localizeDuration, if_pos few, sign]
  cases parts : amounts (span.round .second .day) with
  | nil =>
      rw [parts] at seconds
      exact absurd (Int.natAbs_eq_zero.mp seconds.symm) nonzero
  | cons part rest =>
      refine ⟨by simp, ?_⟩
      simp only [Locale.join_americanEnglish, amount_americanEnglish,
        String.intercalate_cons_append, shown, List.map_cons, decide_eq_true_eq]
      simp only [Bool.false_eq_true, if_false, String.empty_append]

theorem localize_americanEnglish (span : Duration) :
    localize (.duration span) "en_US" = localizeDuration .americanEnglish span := by
  have known : Locale.ofName? "en_US" = some .americanEnglish := by decide +kernel
  unfold localize
  rw [known]

/-- Durations of the same whole seconds are displayed alike. -/
theorem localizeDuration_congr {other : Duration} (same : other.wholeSeconds = span.wholeSeconds) :
    localizeDuration .americanEnglish other = localizeDuration .americanEnglish span := by
  unfold localizeDuration
  rw [other.round_second_eq, span.round_second_eq, same]

/-- A duration of not too many days is displayed, and the display is read back as its whole
seconds. -/
theorem exists_display (few : (span.round .second .day).magnitude .day < dayLimit) :
    ∃ text, localize (.duration span) "en_US" = .ok text ∧
      readSeconds? text = some span.wholeSeconds ∧
      (span.wholeSeconds = 0 ∧ text = "0 sec" ∨
        span.wholeSeconds ≠ 0 ∧ ∃ parts, parts ≠ [] ∧ Listed parts ∧
          text = shown (span.wholeSeconds < 0) parts) := by
  rw [localize_americanEnglish]
  by_cases zero : span.wholeSeconds = 0
  · have read : readSeconds? "0 sec" = some 0 := by decide +kernel
    exact ⟨"0 sec", localizeDuration_of_zero zero, by rw [read, zero], .inl ⟨zero, rfl⟩⟩
  · obtain ⟨several, text⟩ := localizeDuration_of_ne few zero
    have seconds := secondsOver_amounts span.wholeSeconds
    have balanced := Duration.dayBalanced_of_balanced (span.balanced_round .second .day)
    have read := readSeconds?_shown (decide (span.wholeSeconds < 0)) several
      fun part member => (mem_amounts member).1
    rw [← span.round_second_eq] at seconds
    rw [seconds, signed_natAbs] at read
    exact ⟨_, text, read, .inr ⟨zero, _, several, listed_amounts balanced, rfl⟩⟩

/-- A duration is displayed as a list of amounts, or as no seconds if it has none when rounded. The
display is read back as the rounded length, so it tells two durations apart exactly if their lengths
round to different seconds. -/
theorem localize_exact (span : Duration)
    (few : (span.round .second .day).magnitude .day < dayLimit) :
    RoundsTo 1000 span.totalMilliseconds (1000 * span.wholeSeconds) ∧
    ∃ text, localize (.duration span) "en_US" = .ok text ∧
      (text = "0 sec" ↔ span.wholeSeconds = 0) ∧
      (span.wholeSeconds = 0 ∨ ∃ parts, parts ≠ [] ∧ Listed parts ∧
        text = shown (span.wholeSeconds < 0) parts) ∧
      readSeconds? text = some span.wholeSeconds ∧
      ∀ other : Duration, (other.round .second .day).magnitude .day < dayLimit →
        (localize (.duration other) "en_US" = .ok text ↔
          other.wholeSeconds = span.wholeSeconds) := by
  obtain ⟨text, localized, read, shape⟩ := exists_display few
  refine ⟨span.roundsTo_wholeSeconds, text, localized, ?_, shape.imp And.left And.right, read, ?_⟩
  · constructor
    · intro none
      have zero : readSeconds? "0 sec" = some 0 := by decide +kernel
      rw [none, zero] at read
      exact (Option.some.inj read).symm
    · intro zero
      rcases shape with ⟨-, none⟩ | ⟨nonzero, -⟩
      · exact none
      · exact absurd zero nonzero
  · intro other otherFew
    constructor
    · intro same
      obtain ⟨otherText, otherLocalized, otherRead, -⟩ := exists_display otherFew
      rw [otherLocalized] at same
      rw [Except.ok.inj same, read] at otherRead
      exact (Option.some.inj otherRead).symm
    · intro same
      rw [localize_americanEnglish, localizeDuration_congr same, ← localize_americanEnglish,
        localized]

/-- Twenty-five hours and half a second ago, and half a second before that. -/
theorem localize_exact_yesterday :
    ((Duration.ofMilliseconds (-90000500) .millisecond).round .second .day).magnitude .day <
      dayLimit ∧
    ((Duration.ofMilliseconds (-90001000) .hour).round .second .day).magnitude .day < dayLimit ∧
    readSeconds? "-1 day, 1 hr, 1 sec" = some (-90001) ∧
    localize (.duration (.ofMilliseconds (-90001000) .hour)) "en_US" =
      .ok "-1 day, 1 hr, 1 sec" := by
  have few : ((Duration.ofMilliseconds (-90000500) .millisecond).round .second .day).magnitude
      .day < dayLimit := by decide +kernel
  have earlierFew : ((Duration.ofMilliseconds (-90001000) .hour).round .second .day).magnitude
      .day < dayLimit := by decide +kernel
  obtain ⟨-, text, localized, -, -, read, alike⟩ := localize_exact _ few
  have displayed : localize (.duration (.ofMilliseconds (-90000500) .millisecond)) "en_US" =
      .ok "-1 day, 1 hr, 1 sec" := by decide +kernel
  have same : text = "-1 day, 1 hr, 1 sec" := Except.ok.inj (localized.symm.trans displayed)
  have seconds : (Duration.ofMilliseconds (-90000500) .millisecond).wholeSeconds = -90001 := by
    decide +kernel
  rw [same, seconds] at read
  rw [same] at alike
  exact ⟨few, earlierFew, read, (alike _ earlierFew).mpr (by decide +kernel)⟩

end Presentation

end DateCalculator
