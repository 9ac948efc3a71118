import DateCalculator.DateTime

/-!
The supported calendar as a range of instants, from its earliest moment to its latest one.
-/

namespace DateCalculator

open Calendar

theorem Date.dayNumber_bounds (date : Date) :
    daysBeforeYear date.year < date.dayNumber ∧
      date.dayNumber ≤ daysBeforeYear (date.year + 1) := by
  have bounds := date.dayOfYear_bounds
  rw [daysBeforeYear_succ]
  unfold Date.dayNumber
  omega

namespace DateTime

def earliest : DateTime where
  date := { year := 1, month := 1, day := 1, day_pos := by decide, day_le := by decide }
  sinceMidnight := 0
  year_pos := by decide
  year_le := by decide
  sinceMidnight_lt := by decide

def latest : DateTime where
  date := { year := 9999, month := 12, day := 31, day_pos := by decide, day_le := by decide }
  sinceMidnight := microsecondsPerDay - 1
  year_pos := by decide
  year_le := by decide
  sinceMidnight_lt := by decide

theorem instant_bounds (moment : DateTime) :
    earliest.instant ≤ moment.instant ∧ moment.instant ≤ latest.instant := by
  have first : earliest.instant = 86400000000 := by decide
  have last : latest.instant = 315537983999999999 := by decide
  have day := moment.date.dayNumber_bounds
  have begun := daysBeforeYear_mono moment.year_pos
  have ended := daysBeforeYear_mono (show moment.date.year + 1 ≤ 10000 by
    have := moment.year_le
    omega)
  have none : daysBeforeYear 1 = 0 := by decide
  have all : daysBeforeYear 10000 = 3652059 := by decide
  have inside := moment.sinceMidnight_lt
  rw [first, last]
  unfold instant
  unfold microsecondsPerDay at inside ⊢
  omega

end DateTime

end DateCalculator
