import DateCalculator.Proofs.DateDifference

/-!
The direction of a shift. Where a month is too short for the day, a date is pulled back, but never
out of the month that it was moved to. So a moment that is shifted by a duration always moves the
way the sign of the duration points, and the difference of the two moments has that sign.
-/

namespace DateCalculator

open Calendar

namespace Date

def monthIndex (date : Date) : Int := 12 * date.year + (date.month - 1)

theorem monthIndex_addMonths (date : Date) (count : Int) :
    (date.addMonths count).monthIndex = date.monthIndex + count := by
  simp only [monthIndex, addMonths]
  omega

/-- A later month has later dates only, whatever their days are. -/
theorem dayNumber_lt_of_monthIndex_lt {earlier later : Date}
    (ordered : earlier.monthIndex < later.monthIndex) : earlier.dayNumber < later.dayNumber := by
  have firstMonth := earlier.month_le
  have lastMonth := later.month_pos
  unfold monthIndex at ordered
  by_cases sameYear : earlier.year = later.year
  · have begun := daysBeforeMonth_mono later.year (show earlier.month + 1 ≤ later.month by omega)
    have first := earlier.dayOfYear_bounds
    have last := later.dayOfYear_bounds
    rw [sameYear] at first
    unfold dayNumber
    rw [sameYear]
    omega
  · have begun := daysBeforeYear_mono (show earlier.year + 1 ≤ later.year by
      have := later.month_le
      omega)
    have first := earlier.dayNumber_bounds
    have last := later.dayNumber_bounds
    omega

end Date

namespace DateTime

variable (moment : DateTime) {count : Int}

theorem instant_add_day_le_of_pos (forward : 0 < count) :
    moment.instant + microsecondsPerDay ≤ (moment.movedByMonths count).instant := by
  have later : moment.date.dayNumber < (moment.date.addMonths count).dayNumber := by
    apply Date.dayNumber_lt_of_monthIndex_lt
    rw [Date.monthIndex_addMonths]
    omega
  unfold movedByMonths CalendarMoment.instant instant microsecondsPerDay
  dsimp only
  omega

theorem movedByMonths_add_day_le_of_neg (backward : count < 0) :
    (moment.movedByMonths count).instant + microsecondsPerDay ≤ moment.instant := by
  have earlier : (moment.date.addMonths count).dayNumber < moment.date.dayNumber := by
    apply Date.dayNumber_lt_of_monthIndex_lt
    rw [Date.monthIndex_addMonths]
    omega
  unfold movedByMonths CalendarMoment.instant instant microsecondsPerDay
  dsimp only
  omega

end DateTime

/-- Months and an exact length that do not lead in opposite directions, and the sign of both. -/
inductive Heads (months exact : Int) : Int → Prop
  | forward : 0 ≤ months → 0 ≤ exact → 0 < months + exact → Heads months exact 1
  | nowhere : months = 0 → exact = 0 → Heads months exact 0
  | backward : months ≤ 0 → exact ≤ 0 → months + exact < 0 → Heads months exact (-1)

namespace Heads

variable {months exact sign : Int}

theorem directed (heads : Heads months exact sign) (forward : Bool) :
    Heads (direction forward * months) (direction forward * exact) (direction forward * sign) := by
  cases forward with
  | true =>
      simp only [direction, if_true, Int.one_mul]
      exact heads
  | false =>
      simp only [direction, Bool.false_eq_true, if_false, Int.neg_one_mul]
      cases heads with
      | forward months exact further => exact .backward (by omega) (by omega) (by omega)
      | nowhere months exact => exact .nowhere (by omega) (by omega)
      | backward months exact further => exact .forward (by omega) (by omega) (by omega)

/-- How far a moment gets: a millisecond at least, in the direction of the sign. -/
theorem advance (heads : Heads months exact sign) (moment : DateTime) :
    (sign = 1 ∧
        moment.instant + 1000 ≤ (moment.movedByMonths months).instant + 1000 * exact) ∨
      (sign = 0 ∧ (moment.movedByMonths months).instant + 1000 * exact = moment.instant) ∨
      (sign = -1 ∧
        (moment.movedByMonths months).instant + 1000 * exact + 1000 ≤ moment.instant) := by
  have resting := moment.instant_movedByMonths_zero
  have day : microsecondsPerDay = 86400000000 := rfl
  cases heads with
  | forward forward longer further =>
      left
      refine ⟨rfl, ?_⟩
      by_cases within : months = 0
      · subst months
        omega
      · have moved := moment.instant_add_day_le_of_pos (show 0 < months by omega)
        omega
  | nowhere within none =>
      subst months
      omega
  | backward backward shorter further =>
      right
      right
      refine ⟨rfl, ?_⟩
      by_cases within : months = 0
      · subst months
        omega
      · have moved := moment.movedByMonths_add_day_le_of_neg (show months < 0 by omega)
        omega

end Heads

namespace Duration

theorem lengthOfAmounts_eq_zero_iff (amount : TimeUnit → Nat) :
    lengthOfAmounts amount = 0 ↔ totalMonths amount = 0 ∧ exactMilliseconds amount = 0 := by
  rw [lengthOfAmounts_eq, totalMonths, exactMilliseconds]
  omega

theorem heads (span : Duration) : Heads span.calendarMonths span.exactLength span.sign := by
  obtain ⟨negative, same⟩ := span.exists_ofAmounts
  rw [sign_eq, same, totalMilliseconds_ofAmounts, calendarMonths_ofAmounts, exactLength_ofAmounts]
  generalize span.magnitude = amount
  have total := lengthOfAmounts_eq_zero_iff amount
  by_cases zero : lengthOfAmounts amount = 0
  · obtain ⟨months, exact⟩ := total.mp zero
    rw [zero, months, exact]
    cases negative <;> exact .nowhere rfl rfl
  · have nonzero : totalMonths amount ≠ 0 ∨ exactMilliseconds amount ≠ 0 := by omega
    rw [sign_signed negative zero]
    cases negative with
    | false =>
        simp only [signed, Bool.false_eq_true, if_false]
        exact .forward (by omega) (by omega) (by omega)
    | true =>
        simp only [signed, if_true]
        exact .backward (by omega) (by omega) (by omega)

end Duration

/-- The sign tells on which side of its start a way ends, and the difference of the two moments has
it. -/
structure SignTells (sign : Int) (start stop : DateTime) : Prop where
  difference : (stop.since start).sign = sign
  later : 0 < sign ↔ start.instant < stop.instant
  earlier : sign < 0 ↔ stop.instant < start.instant
  resting : sign = 0 ↔ stop = start

namespace SignTells

variable {sign : Int} {start stop : DateTime}

theorem sign_since (later earlier : DateTime) :
    (later.since earlier).sign = ((later.instant - earlier.instant).tdiv 1000).sign := by
  rw [Duration.sign_eq, Arithmetic.totalMilliseconds_since]

theorem of_advance
    (advance : (sign = 1 ∧ start.instant + 1000 ≤ stop.instant) ∨
      (sign = 0 ∧ stop.instant = start.instant) ∨
        (sign = -1 ∧ stop.instant + 1000 ≤ start.instant)) : SignTells sign start stop := by
  have truncated := truncated_bounds (stop.instant - start.instant)
  have apart : stop.instant ≠ start.instant → stop ≠ start :=
    mt (congrArg DateTime.instant)
  rcases advance with ⟨rfl, forward⟩ | ⟨rfl, same⟩ | ⟨rfl, backward⟩
  · constructor
    · rw [sign_since]
      exact Int.sign_eq_one_of_pos (by omega)
    · omega
    · omega
    · simp only [Int.one_ne_zero, false_iff]
      exact apart (by omega)
  · constructor
    · rw [sign_since, same, Int.sub_self]
      rfl
    · omega
    · omega
    · simp only [true_iff]
      exact DateTime.eq_of_instant_eq same
  · constructor
    · rw [sign_since]
      exact Int.sign_eq_neg_one_of_neg (by omega)
    · omega
    · omega
    · simp only [Int.reduceNeg, Int.reduceEq, false_iff]
      exact apart (by omega)

theorem symm (tells : SignTells sign start stop) : SignTells (-sign) stop start := by
  constructor
  · rw [sign_since, ← tells.difference, sign_since, ← Int.sign_neg, ← Int.neg_tdiv, Int.neg_sub]
  · have earlier := tells.earlier
    omega
  · have later := tells.later
    omega
  · rw [Int.neg_eq_zero, tells.resting]
    exact eq_comm

end SignTells

namespace Arithmetic

open Duration

/-- A shift ends on the side of its start that the sign of the duration points to. -/
theorem exists_ended_in_direction {moment : DateTime} {forward : Bool} {span : Duration}
    {value : Value} (shifted : shift moment forward span = .ok value) :
    ∃ ended, value = .dateTime ended ∧ SignTells (direction forward * span.sign) moment ended := by
  obtain ⟨ended, same, reached⟩ := exists_ended_of_shift shifted
  have advance := (span.heads.directed forward).advance moment
  rw [← Int.mul_left_comm, ← reached] at advance
  exact ⟨ended, same, .of_advance advance⟩

/-- Every shift that succeeds leads the way its sign points: adding a duration gives a later moment
if the duration is positive, an earlier one if it is negative and the same one if it is zero, and
the difference to the start has the sign of the duration. Subtracting one leads the other way. -/
theorem shift_follows_sign (moment : DateTime) (span : Duration) :
    (∀ value, apply "+" (.dateTime moment) (.duration span) = .ok value →
      ∃ ended, value = .dateTime ended ∧
        apply "-" value (.dateTime moment) = .ok (.duration (ended.since moment)) ∧
        SignTells span.sign moment ended) ∧
    ∀ value, apply "-" (.dateTime moment) (.duration span) = .ok value →
      ∃ ended, value = .dateTime ended ∧
        apply "-" (.dateTime moment) value = .ok (.duration (moment.since ended)) ∧
        SignTells span.sign ended moment := by
  constructor
  · intro value shifted
    rw [apply_plus_duration] at shifted
    obtain ⟨ended, rfl, tells⟩ := exists_ended_in_direction shifted
    simp only [direction, if_true, Int.one_mul] at tells
    exact ⟨ended, rfl, rfl, tells⟩
  · intro value shifted
    rw [apply_minus_duration] at shifted
    obtain ⟨ended, rfl, tells⟩ := exists_ended_in_direction shifted
    have back := tells.symm
    simp only [direction, Bool.false_eq_true, if_false, Int.neg_one_mul, Int.neg_neg] at back
    exact ⟨ended, rfl, rfl, back⟩

/-- Pulled back to the last of February on its way, an evening in October still moves forward. -/
theorem shift_follows_sign_octoberEvening :
    apply "+" (.dateTime octoberEvening) (.duration fourMonthsThirtyOneHours) =
        .ok (.dateTime secondOfMarch) ∧
      fourMonthsThirtyOneHours.sign = 1 ∧ (secondOfMarch.since octoberEvening).sign = 1 ∧
    apply "-" (.dateTime secondOfMarch) (.duration (inUnit false 2959 .hour)) =
        .ok (.dateTime octoberEvening) ∧
      (inUnit false 2959 .hour).sign = 1 ∧ octoberEvening.instant < secondOfMarch.instant := by
  have moderate : fourMonthsThirtyOneHours.Moderate := by
    intro unit
    cases unit <;> decide +kernel
  have target : targetOutcome octoberEvening true fourMonthsThirtyOneHours =
      .ok (.dateTime secondOfMarch) := rfl
  have forth : apply "+" (.dateTime octoberEvening) (.duration fourMonthsThirtyOneHours) =
      .ok (.dateTime secondOfMarch) :=
    (shift_eq_targetOutcome (shiftable_of_moderate moderate) octoberEvening true).trans target
  have back : apply "-" (.dateTime secondOfMarch) (.duration (inUnit false 2959 .hour)) =
      .ok (.dateTime octoberEvening) := by
    have exactHours : (inUnit false 2959 .hour).IsExact := by decide
    rw [apply_minus_duration]
    exact (shift_eq_ok_dateTime_iff exactHours).mpr (by decide)
  obtain ⟨ended, same, -, tells⟩ :=
    (shift_follows_sign octoberEvening fourMonthsThirtyOneHours).1 _ forth
  cases same
  obtain ⟨began, same, -, told⟩ :=
    (shift_follows_sign secondOfMarch (inUnit false 2959 .hour)).2 _ back
  cases same
  have onward : fourMonthsThirtyOneHours.sign = 1 := by decide
  have positive : (inUnit false 2959 .hour).sign = 1 := by decide +kernel
  exact ⟨forth, onward, tells.difference.trans onward, back, positive,
    told.later.mp (positive.symm ▸ Int.one_pos)⟩

end Arithmetic

end DateCalculator
