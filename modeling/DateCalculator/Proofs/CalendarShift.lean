import DateCalculator.Proofs.UnreportedFailures

/-!
Where a shift leads. On a calendar without bounds a moment moves by months first, to the last day of
a month that is too short for its own day, and then by an exact length of time. A shift ends there,
or is refused exactly if that is outside the supported years: as months and time go the same way, a
moment that leaves the supported years in between never comes back to them.
-/

namespace DateCalculator

open Calendar

theorem Calendar.yearOfDay_mono {earlier later : Int} (ordered : earlier ≤ later) :
    yearOfDay earlier ≤ yearOfDay later := by
  have first := (yearOfDay_bounds earlier).1
  have second := (yearOfDay_bounds later).2
  apply Int.not_lt.mp
  intro descending
  have := daysBeforeYear_mono (show yearOfDay later + 1 ≤ yearOfDay earlier from descending)
  omega

/-- A moment of any year. -/
structure CalendarMoment where
  date : Date
  sinceMidnight : Nat
  sinceMidnight_lt : sinceMidnight < microsecondsPerDay

namespace CalendarMoment

def instant (moment : CalendarMoment) : Int :=
  moment.date.dayNumber * microsecondsPerDay + moment.sinceMidnight

def ofInstant (instant : Int) : CalendarMoment where
  date := Date.ofDayNumber (instant / microsecondsPerDay)
  sinceMidnight := (instant % microsecondsPerDay).toNat
  sinceMidnight_lt := by unfold microsecondsPerDay; omega

def Supported (moment : CalendarMoment) : Prop := 1 ≤ moment.date.year ∧ moment.date.year ≤ 9999

instance (moment : CalendarMoment) : Decidable moment.Supported :=
  inferInstanceAs (Decidable (_ ∧ _))

def toDateTime (moment : CalendarMoment) (supported : moment.Supported) : DateTime :=
  ⟨moment.date, moment.sinceMidnight, supported.1, supported.2, moment.sinceMidnight_lt⟩

@[simp] theorem ofInstant_instant (moment : CalendarMoment) :
    ofInstant moment.instant = moment := by
  have inside := moment.sinceMidnight_lt
  have day : moment.instant / microsecondsPerDay = moment.date.dayNumber := by
    unfold instant
    unfold microsecondsPerDay at inside ⊢
    omega
  have rest : (moment.instant % microsecondsPerDay).toNat = moment.sinceMidnight := by
    unfold instant
    unfold microsecondsPerDay at inside ⊢
    omega
  simp only [ofInstant, day, rest, Date.ofDayNumber_dayNumber]

theorem year_ofInstant_mono {earlier later : Int} (ordered : earlier ≤ later) :
    (ofInstant earlier).date.year ≤ (ofInstant later).date.year := by
  apply yearOfDay_mono
  unfold microsecondsPerDay
  omega

theorem of?_eq (moment : CalendarMoment) :
    DateTime.of? moment.date moment.sinceMidnight =
      if supported : moment.Supported then some (moment.toDateTime supported) else none := by
  have inside := moment.sinceMidnight_lt
  unfold DateTime.of?
  by_cases supported : moment.Supported
  · rw [dif_pos supported, dif_pos ⟨supported, inside⟩]
    rfl
  · rw [dif_neg supported, dif_neg fun valid => supported valid.1]

theorem ofInstant?_eq (instant : Int) :
    DateTime.ofInstant? instant =
      if supported : (ofInstant instant).Supported then
        some ((ofInstant instant).toDateTime supported)
      else none :=
  (ofInstant instant).of?_eq

end CalendarMoment

/-- The months and the exact part of an offset do not lead in opposite directions. -/
def Offset.OneDirection (offset : Offset) : Prop :=
  (0 ≤ offset.totalMonths ∧ 0 ≤ offset.exactPart) ∨
    (offset.totalMonths ≤ 0 ∧ offset.exactPart ≤ 0)

namespace DateTime

def movedByMonths (moment : DateTime) (count : Int) : CalendarMoment :=
  ⟨moment.date.addMonths count, moment.sinceMidnight, moment.sinceMidnight_lt⟩

theorem not_supported_of_moved {moment : DateTime} {months exact : Int}
    (oneDirection : (0 ≤ months ∧ 0 ≤ exact) ∨ (months ≤ 0 ∧ exact ≤ 0))
    (outside : ¬(moment.movedByMonths months).Supported) :
    ¬(CalendarMoment.ofInstant ((moment.movedByMonths months).instant + exact)).Supported := by
  have lower := moment.year_pos
  have upper := moment.year_le
  have positive := moment.date.month_pos
  have inside := moment.date.month_le
  have year : (moment.movedByMonths months).date.year =
      (12 * moment.date.year + (moment.date.month - 1) + months) / 12 := rfl
  have start := CalendarMoment.ofInstant_instant (moment.movedByMonths months)
  generalize (moment.movedByMonths months).instant = begun at start ⊢
  unfold CalendarMoment.Supported at outside ⊢
  rcases oneDirection with ⟨forward, later⟩ | ⟨backward, earlier⟩
  · have above : 9999 < (moment.movedByMonths months).date.year := by omega
    have farther := CalendarMoment.year_ofInstant_mono (show begun ≤ begun + exact by omega)
    rw [start] at farther
    omega
  · have below : (moment.movedByMonths months).date.year < 1 := by omega
    have farther := CalendarMoment.year_ofInstant_mono (show begun + exact ≤ begun by omega)
    rw [start] at farther
    omega

/-- If an offset leads in one direction, only the end of a shift by it decides if it succeeds. -/
theorem shift?_eq_ofInstant? (moment : DateTime) {offset : Offset}
    (oneDirection : offset.OneDirection) :
    moment.shift? offset =
      ofInstant? ((moment.movedByMonths offset.totalMonths).instant + offset.exactPart) := by
  have moved := (moment.movedByMonths offset.totalMonths).of?_eq
  unfold shift?
  by_cases supported : (moment.movedByMonths offset.totalMonths).Supported
  · rw [dif_pos supported] at moved
    exact congrArg (· >>= _) moved
  · rw [dif_neg supported] at moved
    rw [CalendarMoment.ofInstant?_eq, dif_neg (not_supported_of_moved oneDirection supported)]
    exact congrArg (· >>= _) moved

end DateTime

namespace Duration

def calendarMonths (span : Duration) : Int := 12 * span.years + span.months

/-- The length in milliseconds without the years and months. -/
def exactLength (span : Duration) : Int :=
  ((((7 * span.weeks + span.days) * 24 + span.hours) * 60 + span.minutes) * 60 + span.seconds) *
    1000 + span.milliseconds

section Amounts

variable (negative : Bool) (amount : TimeUnit → Nat)

theorem calendarMonths_ofAmounts :
    (ofAmounts negative amount).calendarMonths = signed negative (totalMonths amount) := by
  have years : (ofAmounts negative amount).years = signed negative (amount .year) := rfl
  have months : (ofAmounts negative amount).months = signed negative (amount .month) := rfl
  rw [calendarMonths, years, months, totalMonths, ← signed_add]
  exact congrArg (· + _) (mul_signed negative (amount .year) 12)

theorem exactLength_ofAmounts :
    (ofAmounts negative amount).exactLength = signed negative (exactMilliseconds amount) := by
  unfold exactLength exactMilliseconds ofAmounts Fields.tabulate
  cases negative <;> simp [signed] <;> omega

end Amounts

theorem exists_offset_of_carriable {span : Duration} (carriable : Carriable span.magnitude) :
    ∃ offset, Offset.ofDuration? span = some offset ∧
      offset.totalMonths = span.calendarMonths ∧ offset.exactPart = 1000 * span.exactLength ∧
      offset.OneDirection := by
  obtain ⟨negative, same, offset⟩ := Arithmetic.exists_offset span
  rw [if_pos carriable] at offset
  have months := Offset.totalMonths_carried negative span.magnitude
  have exact := Offset.exactPart_carried negative span.magnitude
  refine ⟨_, offset, ?_, ?_, ?_⟩
  · rw [months, ← calendarMonths_ofAmounts, ← same]
  · rw [exact]
    conv => rhs; rw [same, exactLength_ofAmounts]
    exact (mul_signed negative _ 1000).symm
  · unfold Offset.OneDirection
    rw [months, exact]
    cases negative with
    | false => exact .inl ⟨Int.natCast_nonneg _, Int.natCast_nonneg _⟩
    | true =>
        simp only [signed, if_true]
        exact .inr ⟨by omega, by omega⟩

/-- No amount exceeds `10 ^ 300`. -/
def Moderate (span : Duration) : Prop := ∀ unit, span.magnitude unit ≤ Nat.pow 10 300

theorem shiftable_of_moderate {span : Duration} (moderate : span.Moderate) : span.Shiftable := by
  have room : 1010 * Nat.pow 10 300 < Nat.pow 2 1024 - Nat.pow 2 970 := by decide +kernel
  have digits : Nat.pow 10 300 < Nat.pow 10 Numeral.digitLimit := by decide +kernel
  have months := moderate .month
  have hours := moderate .hour
  have minutes := moderate .minute
  have seconds := moderate .second
  have milliseconds := moderate .millisecond
  have carriable : Carriable span.magnitude := by
    simp only [Carriable, Number.FitsDouble, Int.natAbs_natCast, carriedHours, carriedMinutes,
      carriedSeconds]
    generalize Nat.pow 10 300 = bound at *
    generalize Nat.pow 2 1024 - Nat.pow 2 970 = limit at *
    omega
  obtain ⟨negative, same⟩ := span.exists_ofAmounts
  have fits (unit : TimeUnit) : Numeral.Fits (span.magnitude unit) :=
    Nat.lt_of_le_of_lt (moderate unit) digits
  have printable : (ofAmounts negative span.magnitude).Printable :=
    printable_of_carriable carriable (fits .year) (fits .week) (fits .day)
  exact ⟨same ▸ printable, carriable⟩

end Duration

def direction (forward : Bool) : Int := if forward then 1 else -1

namespace Offset

theorem totalMonths_directed (offset : Offset) (forward : Bool) :
    (if forward then offset else offset.negate).totalMonths =
      direction forward * offset.totalMonths := by
  cases forward with
  | true => exact (Int.one_mul _).symm
  | false => exact (totalMonths_negate offset).trans (Int.neg_one_mul _).symm

theorem exactPart_directed (offset : Offset) (forward : Bool) :
    (if forward then offset else offset.negate).exactPart =
      direction forward * offset.exactPart := by
  cases forward with
  | true => exact (Int.one_mul _).symm
  | false => exact (exactPart_negate offset).trans (Int.neg_one_mul _).symm

theorem OneDirection.directed {offset : Offset} (oneDirection : offset.OneDirection)
    (forward : Bool) : (if forward then offset else offset.negate).OneDirection := by
  cases forward with
  | true => exact oneDirection
  | false =>
      unfold OneDirection at oneDirection ⊢
      simp only [Bool.false_eq_true, if_false, totalMonths_negate, exactPart_negate]
      omega

end Offset

namespace Arithmetic

open Duration

/-- The end of a shift on the calendar without bounds. -/
def shiftTarget (moment : DateTime) (forward : Bool) (span : Duration) : CalendarMoment :=
  let index := 12 * moment.date.year + (moment.date.month - 1) +
    direction forward * (12 * span.years + span.months)
  let year := index / 12
  let month := (index % 12).toNat + 1
  let day := min moment.date.day (monthLength year month)
  let dayNumber := daysBeforeYear year + daysBeforeMonth year month + day
  .ofInstant (dayNumber * microsecondsPerDay + moment.sinceMidnight +
    direction forward * (1000 * span.exactLength))

theorem shiftTarget_eq (moment : DateTime) (forward : Bool) (span : Duration) :
    shiftTarget moment forward span =
      .ofInstant ((moment.movedByMonths (direction forward * span.calendarMonths)).instant +
        direction forward * (1000 * span.exactLength)) := by
  have day (date : Date) : date.dayNumber =
      daysBeforeYear date.year + daysBeforeMonth date.year date.month + date.day := by
    unfold Date.dayNumber Date.dayOfYear
    omega
  rw [CalendarMoment.instant, day]
  rfl

/-- A shift ends at its target, or is refused if that lies outside the supported years. -/
def targetOutcome (moment : DateTime) (forward : Bool) (span : Duration) :
    Except Failure Value :=
  if supported : (shiftTarget moment forward span).Supported then
    .ok (.dateTime ((shiftTarget moment forward span).toDateTime supported))
  else .error (.outsideCalendar moment forward span)

/-- A shift by amounts that can be carried leads to its target, if that is a moment at all. -/
theorem exists_offset_to_target {span : Duration} (carriable : Carriable span.magnitude)
    (moment : DateTime) (forward : Bool) :
    ∃ offset, Offset.ofDuration? span = some offset ∧
      moment.shift? (if forward then offset else offset.negate) = DateTime.ofInstant?
        ((moment.movedByMonths (direction forward * span.calendarMonths)).instant +
          direction forward * (1000 * span.exactLength)) := by
  obtain ⟨offset, found, months, exact, oneDirection⟩ := exists_offset_of_carriable carriable
  refine ⟨offset, found, ?_⟩
  rw [DateTime.shift?_eq_ofInstant? moment (oneDirection.directed forward),
    Offset.totalMonths_directed, Offset.exactPart_directed, months, exact]

/-- A shift that succeeds ends at its target. -/
theorem exists_ended_of_shift {moment : DateTime} {forward : Bool} {span : Duration} {value : Value}
    (shifted : shift moment forward span = .ok value) :
    ∃ ended : DateTime, value = .dateTime ended ∧
      ended.instant =
        (moment.movedByMonths (direction forward * span.calendarMonths)).instant +
          direction forward * (1000 * span.exactLength) := by
  have carriable : Carriable span.magnitude := by
    obtain ⟨negative, -, offset⟩ := exists_offset span
    apply Classical.byContradiction
    intro large
    rw [if_neg large] at offset
    have refused : shift moment forward span = .error .offsetTooLarge := by
      unfold shift
      rw [offset]
    rw [refused] at shifted
    contradiction
  obtain ⟨offset, found, led⟩ := exists_offset_to_target carriable moment forward
  unfold shift at shifted
  rw [found] at shifted
  dsimp only at shifted
  rw [led] at shifted
  split at shifted
  · rename_i ended reached
    exact ⟨ended, (Except.ok.inj shifted).symm, DateTime.instant_of_ofInstant? reached⟩
  · cases shifted

theorem shift_eq_targetOutcome {span : Duration} (shiftable : span.Shiftable) (moment : DateTime)
    (forward : Bool) : shift moment forward span = targetOutcome moment forward span := by
  obtain ⟨printable, carriable⟩ := shiftable
  obtain ⟨offset, found, led⟩ := exists_offset_to_target carriable moment forward
  unfold shift targetOutcome
  rw [found, refuse_duration, if_pos printable]
  dsimp only
  rw [led, CalendarMoment.ofInstant?_eq, ← shiftTarget_eq]
  by_cases supported : (shiftTarget moment forward span).Supported
  · rw [dif_pos supported, dif_pos supported]
  · rw [dif_neg supported, dif_neg supported]

theorem outOfRange_targetOutcome (moment : DateTime) (forward : Bool) (span : Duration) :
    (∃ failure, targetOutcome moment forward span = .error failure ∧
      failure.category? = some .outOfRange) ↔ ¬(shiftTarget moment forward span).Supported := by
  by_cases supported : (shiftTarget moment forward span).Supported
  · simp [targetOutcome, supported]
  · simp [targetOutcome, supported, Failure.category?]

/-- A moment shifted by a duration of moderate amounts, on either side of a plus or in front of a
minus, ends where the shift leads on the calendar without bounds, and is out of range exactly if
that is not a moment of the supported years. -/
theorem shift_ends_at_target {span : Duration} (moderate : span.Moderate) (moment : DateTime) :
    apply "+" (.dateTime moment) (.duration span) = targetOutcome moment true span ∧
      apply "+" (.duration span) (.dateTime moment) = targetOutcome moment true span ∧
      apply "-" (.dateTime moment) (.duration span) = targetOutcome moment false span ∧
      ∀ forward, (∃ failure, targetOutcome moment forward span = .error failure ∧
        failure.category? = some .outOfRange) ↔
          ¬(shiftTarget moment forward span).Supported := by
  have ended := shift_eq_targetOutcome (shiftable_of_moderate moderate) moment
  exact ⟨ended true, ended true, ended false,
    fun forward => outOfRange_targetOutcome moment forward span⟩

def octoberEvening : DateTime where
  date := { year := 2023, month := 10, day := 30, day_pos := by decide, day_le := by decide }
  sinceMidnight := 18 * 3600000000
  year_pos := by decide
  year_le := by decide
  sinceMidnight_lt := by decide

def secondOfMarch : DateTime where
  date := { year := 2024, month := 3, day := 2, day_pos := by decide, day_le := by decide }
  sinceMidnight := 3600000000
  year_pos := by decide
  year_le := by decide
  sinceMidnight_lt := by decide

def fourMonthsThirtyOneHours : Duration := .ofAmounts false fun
  | .month => 4
  | .hour => 31
  | _ => 0

/-- Four months on there is no day 30, so the last of February is 31 hours before the target. -/
theorem shift_ends_at_secondOfMarch :
    fourMonthsThirtyOneHours.Moderate ∧
      apply "+" (.dateTime octoberEvening) (.duration fourMonthsThirtyOneHours) =
        .ok (.dateTime secondOfMarch) := by
  have moderate : fourMonthsThirtyOneHours.Moderate := by
    intro unit
    cases unit <;> decide +kernel
  have target : targetOutcome octoberEvening true fourMonthsThirtyOneHours =
      .ok (.dateTime secondOfMarch) := rfl
  exact ⟨moderate, (shift_ends_at_target moderate octoberEvening).1.trans target⟩

end Arithmetic

end DateCalculator
