import DateCalculator.Proofs.CalendarShift
import DateCalculator.Proofs.DurationSum

/-!
Durations without years and months. A shift by one moves the instant by the length of the duration,
and it succeeds exactly if a moment of the calendar is there. So such durations act on moments as
their lengths add up.
-/

namespace DateCalculator

theorem Date.addMonths_zero (date : Date) : date.addMonths 0 = date := by
  have lower := date.month_pos
  have upper := date.month_le
  have inside := date.day_le
  have year : (12 * date.year + (date.month - 1) + 0) / 12 = date.year := by omega
  have month : ((12 * date.year + (date.month - 1) + 0) % 12).toNat + 1 = date.month := by omega
  obtain ⟨_, _, _, _, _, _, _⟩ := date
  simp only [addMonths, mk.injEq]
  refine ⟨year, month, ?_⟩
  rw [year, month]
  exact Nat.min_eq_left inside

theorem DateTime.eq_of_instant_eq {first second : DateTime}
    (same : first.instant = second.instant) : first = second := by
  have found := ofInstant?_instant first
  rw [same, ofInstant?_instant] at found
  exact (Option.some.inj found).symm

theorem DateTime.instant_movedByMonths_zero (moment : DateTime) :
    (moment.movedByMonths 0).instant = moment.instant := by
  unfold movedByMonths CalendarMoment.instant instant
  rw [Date.addMonths_zero]

namespace Duration

/-- Without years and months every amount is a fixed length of time. -/
def IsExact (span : Duration) : Prop := span.years = 0 ∧ span.months = 0

instance (span : Duration) : Decidable span.IsExact := inferInstanceAs (Decidable (_ ∧ _))

namespace IsExact

variable {span : Duration}

theorem calendarMonths_eq (exact : span.IsExact) : span.calendarMonths = 0 := by
  rw [calendarMonths, exact.1, exact.2]
  rfl

theorem exactLength_eq (exact : span.IsExact) : span.exactLength = span.totalMilliseconds := by
  have years : span.get .year = 0 := exact.1
  have months : span.get .month = 0 := exact.2
  rw [totalMilliseconds_eq, years, months, exactLength]
  simp only [get, Fields.get]
  omega

end IsExact

theorem isExact_of_balanced {span : Duration} {largest : TimeUnit} (balanced : Balanced largest span)
    (short : largest.length < TimeUnit.month.length) : span.IsExact := by
  refine ⟨balanced.above .year ?_, balanced.above .month short⟩
  have longer : TimeUnit.month.length < TimeUnit.year.length := by decide
  omega

theorem isExact_add (first second : Duration) : (first.add second).IsExact := by
  apply isExact_of_balanced (balanced_ofMilliseconds _ (balanceUnit first second))
  rw [length_balanceUnit]
  have days : TimeUnit.day.length < TimeUnit.month.length := by decide
  omega

theorem isExact_negate (span : Duration) : span.negate.IsExact :=
  isExact_of_balanced (balanced_ofMilliseconds _ _) (by decide)

theorem totalMilliseconds_negate (span : Duration) :
    span.negate.totalMilliseconds = -span.totalMilliseconds :=
  totalMilliseconds_ofMilliseconds _ _

/-- No duration between two moments of the calendar is too long to be carried. -/
theorem carriable_of_short {span : Duration}
    (short : span.totalMilliseconds.natAbs ≤ 315537983999999) : Carriable span.magnitude := by
  have room : 315537983999999 ≤ Nat.pow 10 300 := by decide +kernel
  have moderate : span.Moderate := by
    intro unit
    have inside := amount_le_lengthOfAmounts span.magnitude unit
    rw [← natAbs_totalMilliseconds] at inside
    exact Nat.le_trans inside (Nat.le_trans short room)
  exact (shiftable_of_moderate moderate).2

end Duration

theorem natAbs_direction_mul (forward : Bool) (length : Int) :
    (direction forward * length).natAbs = length.natAbs := by
  cases forward with
  | true => rw [direction, if_pos rfl, Int.one_mul]
  | false => rw [direction, if_neg Bool.false_ne_true, Int.neg_one_mul, Int.natAbs_neg]

namespace Arithmetic

open Duration

variable {span : Duration} {moment : DateTime} {forward : Bool} {value : Value}

/-- A shift by an exact duration ends where its length leads, if a moment of the calendar is
there, and nowhere else. -/
theorem shift_eq_ok_iff (exact : span.IsExact) :
    shift moment forward span = .ok value ↔ ∃ ended, value = .dateTime ended ∧
      ended.instant = moment.instant + direction forward * (1000 * span.totalMilliseconds) := by
  have target : (moment.movedByMonths (direction forward * span.calendarMonths)).instant +
      direction forward * (1000 * span.exactLength) =
        moment.instant + direction forward * (1000 * span.totalMilliseconds) := by
    rw [exact.calendarMonths_eq, exact.exactLength_eq, Int.mul_zero,
      DateTime.instant_movedByMonths_zero]
  constructor
  · intro shifted
    have reached := exists_ended_of_shift shifted
    rwa [target] at reached
  · rintro ⟨ended, rfl, reached⟩
    have short : span.totalMilliseconds.natAbs ≤ 315537983999999 := by
      have first : DateTime.earliest.instant = 86400000000 := by decide
      have last : DateTime.latest.instant = 315537983999999999 := by decide
      have started := moment.instant_bounds
      have stopped := ended.instant_bounds
      have length := natAbs_direction_mul forward (1000 * span.totalMilliseconds)
      omega
    obtain ⟨offset, found, led⟩ :=
      exists_offset_to_target (carriable_of_short short) moment forward
    unfold shift
    rw [found]
    dsimp only
    rw [led, target, ← reached, DateTime.ofInstant?_instant]

theorem shift_eq_ok_dateTime_iff (exact : span.IsExact) {ended : DateTime} :
    shift moment forward span = .ok (.dateTime ended) ↔
      ended.instant = moment.instant + direction forward * (1000 * span.totalMilliseconds) := by
  rw [shift_eq_ok_iff exact]
  constructor
  · rintro ⟨other, same, reached⟩
    cases same
    exact reached
  · intro reached
    exact ⟨ended, rfl, reached⟩

theorem apply_plus_duration (moment : DateTime) (span : Duration) :
    apply "+" (.dateTime moment) (.duration span) = shift moment true span := rfl

theorem apply_minus_duration (moment : DateTime) (span : Duration) :
    apply "-" (.dateTime moment) (.duration span) = shift moment false span := rfl

theorem totalMilliseconds_since (later earlier : DateTime) :
    (later.since earlier).totalMilliseconds = (later.instant - earlier.instant).tdiv 1000 :=
  totalMilliseconds_ofMilliseconds _ _

/-- Durations without years and months act on moments: two shifts are one shift by the sum, a shift
is undone by the opposite one, the difference of end and start has the length of the duration, and
subtracting a duration is adding its opposite, which is a count of milliseconds alone. -/
theorem exact_durations_act {first second : Duration} (exactFirst : first.IsExact)
    (exactSecond : second.IsExact) (moment : DateTime) :
    (∀ moved ended, apply "+" (.dateTime moment) (.duration first) = .ok moved →
        apply "+" moved (.duration second) = .ok ended →
          ∃ sum, apply "+" (.duration first) (.duration second) = .ok sum ∧
            apply "+" (.dateTime moment) sum = .ok ended) ∧
      (∀ moved, apply "+" (.dateTime moment) (.duration first) = .ok moved →
        apply "-" moved (.duration first) = .ok (.dateTime moment) ∧
        ∃ span, apply "-" moved (.dateTime moment) = .ok (.duration span) ∧
          span.totalMilliseconds = first.totalMilliseconds) ∧
      ∀ ended, apply "-" (.dateTime moment) (.duration first) = .ok ended ↔
        ∃ opposite, negate (.duration first) = .ok opposite ∧
          apply "+" (.dateTime moment) opposite = .ok ended := by
  refine ⟨?_, ?_, ?_⟩
  · intro moved ended started continued
    rw [apply_plus_duration] at started
    obtain ⟨between, rfl, reached⟩ := (shift_eq_ok_iff exactFirst).mp started
    rw [apply_plus_duration] at continued
    obtain ⟨stopped, rfl, passed⟩ := (shift_eq_ok_iff exactSecond).mp continued
    refine ⟨.duration (first.add second), rfl, ?_⟩
    rw [apply_plus_duration, shift_eq_ok_dateTime_iff (isExact_add first second),
      totalMilliseconds_add, passed, reached]
    simp only [direction, if_true]
    omega
  · intro moved shifted
    rw [apply_plus_duration] at shifted
    obtain ⟨between, rfl, reached⟩ := (shift_eq_ok_iff exactFirst).mp shifted
    simp only [direction, if_true, Int.one_mul] at reached
    refine ⟨?_, between.since moment, rfl, ?_⟩
    · rw [apply_minus_duration, shift_eq_ok_dateTime_iff exactFirst, reached]
      simp only [direction, Bool.false_eq_true, if_false]
      omega
    · have apart : between.instant - moment.instant = 1000 * first.totalMilliseconds := by omega
      rw [totalMilliseconds_since, apart, Int.mul_tdiv_cancel_left _ (by decide)]
  · intro ended
    have opposite : direction true * (1000 * first.negate.totalMilliseconds) =
        direction false * (1000 * first.totalMilliseconds) := by
      rw [totalMilliseconds_negate]
      simp only [direction, Bool.false_eq_true, if_false, if_true]
      omega
    rw [apply_minus_duration, shift_eq_ok_iff exactFirst, ← opposite,
      ← shift_eq_ok_iff (isExact_negate first)]
    constructor
    · intro shifted
      exact ⟨.duration first.negate, rfl, shifted⟩
    · rintro ⟨negated, same, shifted⟩
      cases same
      exact shifted

/-- Over the leap day and back, by the same length in other amounts. -/
theorem exact_durations_act_leapDay :
    (inUnit true 2959 .hour).IsExact ∧ (inUnit false 177540 .minute).IsExact ∧
    ∃ sum, apply "+" (.duration (inUnit true 2959 .hour)) (.duration (inUnit false 177540 .minute)) =
        .ok sum ∧
      apply "+" (.dateTime secondOfMarch) sum = .ok (.dateTime secondOfMarch) := by
  have exactFirst : (inUnit true 2959 .hour).IsExact := by decide
  have exactSecond : (inUnit false 177540 .minute).IsExact := by decide
  have back : shift secondOfMarch true (inUnit true 2959 .hour) = .ok (.dateTime octoberEvening) :=
    (shift_eq_ok_dateTime_iff exactFirst).mpr (by decide)
  have forth : shift octoberEvening true (inUnit false 177540 .minute) =
      .ok (.dateTime secondOfMarch) := (shift_eq_ok_dateTime_iff exactSecond).mpr (by decide)
  obtain ⟨associates, -, -⟩ := exact_durations_act exactFirst exactSecond secondOfMarch
  exact ⟨exactFirst, exactSecond, associates _ _ back forth⟩

end Arithmetic

end DateCalculator
