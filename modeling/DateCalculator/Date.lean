import DateCalculator.Calendar

/-!
Dates of any year, always valid. `dayNumber` and `ofDayNumber` are inverse to each other, and
`addMonths` keeps the day of the month unless the new month is too short for it.
-/

namespace DateCalculator

open Calendar

structure Date where
  year : Int
  month : Nat
  day : Nat
  month_pos : 0 < month := by omega
  month_le : month ≤ 12 := by omega
  day_pos : 0 < day := by omega
  day_le : day ≤ monthLength year month
  deriving DecidableEq

namespace Date

def of? (year : Int) (month day : Nat) : Option Date :=
  if valid : (0 < month ∧ month ≤ 12) ∧ 0 < day ∧ day ≤ monthLength year month then
    some ⟨year, month, day, valid.1.1, valid.1.2, valid.2.1, valid.2.2⟩
  else none

def dayOfYear (date : Date) : Nat := daysBeforeMonth date.year date.month + date.day

theorem dayOfYear_bounds (date : Date) :
    daysBeforeMonth date.year date.month < date.dayOfYear ∧
      date.dayOfYear ≤ daysBeforeMonth date.year (date.month + 1) ∧
      date.dayOfYear ≤ yearLength date.year := by
  have next := daysBeforeMonth_succ date.year date.month_pos
  have whole :=
    daysBeforeMonth_mono date.year (show date.month + 1 ≤ 13 from Nat.succ_le_succ date.month_le)
  rw [daysBeforeMonth_thirteen] at whole
  have positive := date.day_pos
  have inside := date.day_le
  unfold dayOfYear
  omega

def dayNumber (date : Date) : Int := daysBeforeYear date.year + date.dayOfYear

def ofDayOfYear (year : Int) (day : Nat) (positive : 0 < day) (inside : day ≤ yearLength year) :
    Date :=
  have bounds := monthOfDay_bounds year day 12 positive (by decide)
  { year
    month := monthOfDay year day 12
    day := day - daysBeforeMonth year (monthOfDay year day 12)
    month_pos := bounds.1
    month_le := bounds.2.1
    day_pos := Nat.sub_pos_of_lt bounds.2.2.1
    day_le := by
      have next : day ≤ daysBeforeMonth year (monthOfDay year day 12 + 1) := by
        rcases bounds.2.2.2 with last | next
        · rw [last, daysBeforeMonth_thirteen]
          exact inside
        · exact next
      rw [daysBeforeMonth_succ year bounds.1] at next
      omega }

theorem daysInYear (number : Int) :
    0 < (number - daysBeforeYear (yearOfDay number)).toNat ∧
      (number - daysBeforeYear (yearOfDay number)).toNat ≤ yearLength (yearOfDay number) := by
  have bounds := yearOfDay_bounds number
  rw [daysBeforeYear_succ] at bounds
  omega

def ofDayNumber (number : Int) : Date :=
  let year := yearOfDay number
  ofDayOfYear year (number - daysBeforeYear year).toNat (daysInYear number).1 (daysInYear number).2

@[simp] theorem dayNumber_ofDayNumber (number : Int) : (ofDayNumber number).dayNumber = number := by
  have inside := daysInYear number
  have begun := (monthOfDay_bounds (yearOfDay number)
    (number - daysBeforeYear (yearOfDay number)).toNat 12 inside.1 (by decide)).2.2.1
  simp only [dayNumber, dayOfYear, ofDayNumber, ofDayOfYear]
  omega

theorem ofDayOfYear_dayOfYear (date : Date) (positive : 0 < date.dayOfYear)
    (inside : date.dayOfYear ≤ yearLength date.year) :
    ofDayOfYear date.year date.dayOfYear positive inside = date := by
  have bounds := date.dayOfYear_bounds
  have month := monthOfDay_eq date.month_pos date.month_le bounds.1 bounds.2.1
  obtain ⟨year, _, day, _, _, _, _⟩ := date
  unfold ofDayOfYear
  simp only [mk.injEq, true_and]
  refine ⟨month, ?_⟩
  rw [month]
  simp [dayOfYear]

@[simp] theorem ofDayNumber_dayNumber (date : Date) : ofDayNumber date.dayNumber = date := by
  have bounds := date.dayOfYear_bounds
  have year : yearOfDay date.dayNumber = date.year := by
    apply yearOfDay_eq
    · unfold dayNumber
      omega
    · rw [daysBeforeYear_succ]
      unfold dayNumber
      omega
  have day : (date.dayNumber - daysBeforeYear date.year).toNat = date.dayOfYear := by
    unfold dayNumber
    omega
  have same := date.ofDayOfYear_dayOfYear (by omega) bounds.2.2
  unfold ofDayNumber
  simp only [year, day]
  exact same

def addMonths (date : Date) (count : Int) : Date :=
  let index := 12 * date.year + (date.month - 1) + count
  let year := index / 12
  let month := (index % 12).toNat + 1
  have longEnough := monthLength_bounds year month
  { year, month
    day := min date.day (monthLength year month)
    month_le := by omega
    day_pos := by have := date.day_pos; omega
    day_le := Nat.min_le_right _ _ }

end Date

end DateCalculator
