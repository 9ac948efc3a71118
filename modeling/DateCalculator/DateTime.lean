import DateCalculator.Date

/-!
Moments of the supported calendar, years 1 to 9999, to the microsecond and without a time zone.
The view `instant` counts microseconds; a moment is determined by it.
-/

namespace DateCalculator

def microsecondsPerDay : Nat := 86400000000

structure DateTime where
  date : Date
  sinceMidnight : Nat
  year_pos : 1 ≤ date.year
  year_le : date.year ≤ 9999
  sinceMidnight_lt : sinceMidnight < microsecondsPerDay
  deriving DecidableEq

namespace DateTime

def hour (moment : DateTime) : Nat := moment.sinceMidnight / 3600000000

def minute (moment : DateTime) : Nat := moment.sinceMidnight / 60000000 % 60

def second (moment : DateTime) : Nat := moment.sinceMidnight / 1000000 % 60

def microsecond (moment : DateTime) : Nat := moment.sinceMidnight % 1000000

def instant (moment : DateTime) : Int :=
  moment.date.dayNumber * microsecondsPerDay + moment.sinceMidnight

def of? (date : Date) (sinceMidnight : Nat) : Option DateTime :=
  if valid : (1 ≤ date.year ∧ date.year ≤ 9999) ∧ sinceMidnight < microsecondsPerDay then
    some ⟨date, sinceMidnight, valid.1.1, valid.1.2, valid.2⟩
  else none

def ofInstant? (instant : Int) : Option DateTime :=
  of? (Date.ofDayNumber (instant / microsecondsPerDay)) (instant % microsecondsPerDay).toNat

theorem instant_of_ofInstant? {instant : Int} {moment : DateTime}
    (found : ofInstant? instant = some moment) : moment.instant = instant := by
  unfold ofInstant? of? at found
  split at found
  · cases found
    simp only [DateTime.instant, Date.dayNumber_ofDayNumber, microsecondsPerDay]
    omega
  · contradiction

@[simp] theorem ofInstant?_instant (moment : DateTime) :
    ofInstant? moment.instant = some moment := by
  obtain ⟨date, sinceMidnight, lower, upper, inside⟩ := moment
  have day : (date.dayNumber * microsecondsPerDay + sinceMidnight) / (microsecondsPerDay : Int) =
      date.dayNumber := by
    unfold microsecondsPerDay at inside ⊢
    omega
  have rest : ((date.dayNumber * microsecondsPerDay + sinceMidnight) %
      (microsecondsPerDay : Int)).toNat = sinceMidnight := by
    unfold microsecondsPerDay at inside ⊢
    omega
  unfold ofInstant? of? instant
  dsimp only
  rw [day, rest, Date.ofDayNumber_dayNumber, dif_pos ⟨⟨lower, upper⟩, inside⟩]

def timeOfDay? (hour minute second microsecond : Nat) : Option Nat :=
  if hour < 24 ∧ minute < 60 ∧ second < 60 ∧ microsecond < 1000000 then
    some (((hour * 60 + minute) * 60 + second) * 1000000 + microsecond)
  else none

end DateTime

end DateCalculator
