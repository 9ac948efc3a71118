import DateCalculator.Proofs.ExactShift

/-!
Differences of moments. The difference is truncated toward zero to milliseconds and balanced from
days, and it is opposite in the other direction. Added to the moment that it is counted from, it
never leaves the calendar and comes within a millisecond of the other moment, from this side of it.
-/

namespace DateCalculator

/-- Truncation leaves less than a millisecond, on the side of zero. -/
theorem truncated_bounds (length : Int) :
    (0 ≤ length ∧ 0 ≤ length.tdiv 1000 ∧ 1000 * length.tdiv 1000 ≤ length ∧
        length < 1000 * length.tdiv 1000 + 1000) ∨
      (length ≤ 0 ∧ length.tdiv 1000 ≤ 0 ∧ length ≤ 1000 * length.tdiv 1000 ∧
        1000 * length.tdiv 1000 < length + 1000) := by
  rcases Int.le_total 0 length with forward | backward
  · left
    rw [Int.tdiv_eq_ediv_of_nonneg forward]
    omega
  · right
    have opposite : length.tdiv 1000 = -((-length) / 1000) := by
      rw [← Int.tdiv_eq_ediv_of_nonneg (by omega), Int.neg_tdiv, Int.neg_neg]
    rw [opposite]
    omega

namespace DateTime

theorem supported_instant (moment : DateTime) :
    (CalendarMoment.ofInstant moment.instant).Supported := by
  have found := moment.ofInstant?_instant
  rw [CalendarMoment.ofInstant?_eq] at found
  split at found
  · assumption
  · contradiction

/-- Between two moments of the calendar there is a moment at every instant. -/
theorem exists_of_between {earlier later : DateTime} {instant : Int}
    (begun : earlier.instant ≤ instant) (ended : instant ≤ later.instant) :
    ∃ moment : DateTime, moment.instant = instant := by
  have supported : (CalendarMoment.ofInstant instant).Supported := by
    have first := CalendarMoment.year_ofInstant_mono begun
    have last := CalendarMoment.year_ofInstant_mono ended
    have lower := earlier.supported_instant.1
    have upper := later.supported_instant.2
    exact ⟨by omega, by omega⟩
  have found := CalendarMoment.ofInstant?_eq instant
  rw [dif_pos supported] at found
  exact ⟨_, instant_of_ofInstant? found⟩

/-- The moments are a whole number of milliseconds apart. -/
def WholeApart (first second : DateTime) : Prop := (1000 : Int) ∣ first.instant - second.instant

instance (first second : DateTime) : Decidable (WholeApart first second) :=
  inferInstanceAs (Decidable (_ ∣ _))

theorem balanced_since (first second : DateTime) :
    Duration.Balanced .day (first.since second) :=
  Duration.balanced_ofMilliseconds _ _

theorem isExact_since (first second : DateTime) : (first.since second).IsExact :=
  Duration.isExact_of_balanced (balanced_since first second) (by decide)

theorem get_since_swap (first second : DateTime) (unit : TimeUnit) :
    (first.since second).get unit = -(second.since first).get unit := by
  have opposite : (first.instant - second.instant).tdiv 1000 =
      -(second.instant - first.instant).tdiv 1000 := by
    rw [← Int.neg_tdiv, Int.neg_sub]
  unfold since Duration.ofMicroseconds
  rw [opposite, Duration.get_ofMilliseconds_neg]

/-- Stored with the days rounded down, also if it is negative, the difference is the same. -/
theorem ofDifference?_floored (first second : DateTime) :
    Duration.ofDifference? ((first.instant - second.instant) / 86400000000)
      ((first.instant - second.instant) % 86400000000 / 1000000)
      ((first.instant - second.instant) % 1000000) = some (first.since second) := by
  have start : earliest.instant = 86400000000 := by decide
  have stop : latest.instant = 315537983999999999 := by decide
  have early := first.instant_bounds
  have late := second.instant_bounds
  have near : (first.instant - second.instant).natAbs ≤ 315537897599999999 := by omega
  unfold since Duration.ofDifference?
  generalize first.instant - second.instant = difference at near ⊢
  have whole : (difference / 86400000000 * 86400 + difference % 86400000000 / 1000000) * 1000000 +
      difference % 1000000 = difference := by omega
  dsimp only
  rw [whole, if_pos]
  unfold Duration.differenceLimit
  omega

theorem WholeApart.totalMilliseconds_since {first second : DateTime}
    (whole : WholeApart first second) :
    1000 * (first.since second).totalMilliseconds = first.instant - second.instant := by
  rw [Arithmetic.totalMilliseconds_since]
  exact Int.mul_tdiv_cancel' whole

end DateTime

namespace Arithmetic

open DateTime

/-- The difference leads from the second moment to a moment of the calendar. -/
theorem exists_reached (first second : DateTime) :
    ∃ reached : DateTime,
      reached.instant = second.instant + 1000 * (first.since second).totalMilliseconds := by
  rw [totalMilliseconds_since]
  rcases truncated_bounds (first.instant - second.instant) with forward | backward
  · have begun : second.instant ≤
        second.instant + 1000 * (first.instant - second.instant).tdiv 1000 := by omega
    exact exists_of_between begun (show _ ≤ first.instant by omega)
  · have begun : first.instant ≤
        second.instant + 1000 * (first.instant - second.instant).tdiv 1000 := by omega
    exact exists_of_between begun (show _ ≤ second.instant by omega)

/-- The laws of the difference of two moments: how it is truncated, also from floored days, and
balanced, that it is opposite in the other direction, where it leads from the second moment, and
that differences of whole milliseconds lead all the way, back again, and add up. -/
theorem difference_of_moments (first second : DateTime) :
    apply "-" (.dateTime first) (.dateTime second) = .ok (.duration (first.since second)) ∧
    (first.since second).totalMilliseconds = (first.instant - second.instant).tdiv 1000 ∧
    Duration.ofDifference? ((first.instant - second.instant) / 86400000000)
      ((first.instant - second.instant) % 86400000000 / 1000000)
      ((first.instant - second.instant) % 1000000) = some (first.since second) ∧
    (first.since second).DayBalanced ∧
    (∀ unit, (first.since second).get unit = -(second.since first).get unit) ∧
    (∃ reached, apply "+" (.dateTime second) (.duration (first.since second)) =
        .ok (.dateTime reached) ∧
      min second.instant first.instant ≤ reached.instant ∧
      reached.instant ≤ max second.instant first.instant ∧
      (first.instant - reached.instant).natAbs < 1000 ∧
      (WholeApart first second → reached = first ∧
        apply "-" (.dateTime first) (.duration (first.since second)) = .ok (.dateTime second))) ∧
    ∀ third, WholeApart first second → WholeApart second third →
      (first.since second).totalMilliseconds + (second.since third).totalMilliseconds =
        (first.since third).totalMilliseconds := by
  have exact := isExact_since first second
  have length := totalMilliseconds_since first second
  have truncated := truncated_bounds (first.instant - second.instant)
  refine ⟨rfl, length, ofDifference?_floored first second,
    Duration.dayBalanced_of_balanced (balanced_since first second),
    get_since_swap first second, ?_, ?_⟩
  · obtain ⟨reached, place⟩ := exists_reached first second
    refine ⟨reached, ?_, by omega, by omega, by omega, ?_⟩
    · rw [apply_plus_duration, shift_eq_ok_dateTime_iff exact, place]
      simp only [direction, if_true, Int.one_mul]
    · intro whole
      have apart := whole.totalMilliseconds_since
      refine ⟨eq_of_instant_eq (by omega), ?_⟩
      rw [apply_minus_duration, shift_eq_ok_dateTime_iff exact, apart]
      simp only [direction, Bool.false_eq_true, if_false]
      omega
  · intro third firstWhole secondWhole
    have wholeApart : WholeApart first third := by
      have sum := Int.dvd_add firstWhole secondWhole
      rwa [show first.instant - second.instant + (second.instant - third.instant) =
        first.instant - third.instant by omega] at sum
    have early := firstWhole.totalMilliseconds_since
    have late := secondWhole.totalMilliseconds_since
    have both := wholeApart.totalMilliseconds_since
    omega

theorem difference_of_moments_spring :
    WholeApart secondOfMarch octoberEvening ∧ WholeApart octoberEvening DateTime.earliest ∧
    (secondOfMarch.since octoberEvening).text = "P123DT7H" ∧
    apply "-" (.dateTime secondOfMarch) (.duration (secondOfMarch.since octoberEvening)) =
      .ok (.dateTime octoberEvening) ∧
    (secondOfMarch.since octoberEvening).totalMilliseconds +
        (octoberEvening.since DateTime.earliest).totalMilliseconds =
      (secondOfMarch.since DateTime.earliest).totalMilliseconds := by
  have wholeFirst : WholeApart secondOfMarch octoberEvening := by decide
  have wholeSecond : WholeApart octoberEvening DateTime.earliest := by decide
  obtain ⟨-, -, -, -, -, ⟨_, -, -, -, -, whole⟩, additive⟩ :=
    difference_of_moments secondOfMarch octoberEvening
  exact ⟨wholeFirst, wholeSecond, by decide +kernel, (whole wholeFirst).2,
    additive DateTime.earliest wholeFirst wholeSecond⟩

end Arithmetic

end DateCalculator
