/-!
The proleptic Gregorian calendar without bounds: leap years, month lengths and the numbering of
days, in which 1 January of year 1 is day 1. Days and dates correspond one to one.
-/

namespace DateCalculator.Calendar

abbrev IsLeap (year : Int) : Prop := year % 4 = 0 ∧ (year % 100 ≠ 0 ∨ year % 400 = 0)

def yearLength (year : Int) : Nat := if IsLeap year then 366 else 365

def monthLength (year : Int) : Nat → Nat
  | 2 => if IsLeap year then 29 else 28
  | 4 | 6 | 9 | 11 => 30
  | _ => 31

theorem monthLength_bounds (year : Int) (month : Nat) :
    28 ≤ monthLength year month ∧ monthLength year month ≤ 31 := by
  unfold monthLength
  split <;> (try split) <;> omega

def daysBeforeYear (year : Int) : Int :=
  365 * (year - 1) + (year - 1) / 4 - (year - 1) / 100 + (year - 1) / 400

theorem daysBeforeYear_succ (year : Int) :
    daysBeforeYear (year + 1) = daysBeforeYear year + yearLength year := by
  unfold daysBeforeYear yearLength
  split <;> omega

theorem daysBeforeYear_mono {earlier later : Int} (ordered : earlier ≤ later) :
    daysBeforeYear earlier ≤ daysBeforeYear later := by
  unfold daysBeforeYear
  omega

def daysBeforeMonth (year : Int) : Nat → Nat
  | 0 => 0
  | 1 => 0
  | month + 2 => daysBeforeMonth year (month + 1) + monthLength year (month + 1)

theorem daysBeforeMonth_succ (year : Int) {month : Nat} (positive : 0 < month) :
    daysBeforeMonth year (month + 1) = daysBeforeMonth year month + monthLength year month := by
  cases month with
  | zero => omega
  | succ month => rfl

theorem daysBeforeMonth_mono (year : Int) {earlier later : Nat} (ordered : earlier ≤ later) :
    daysBeforeMonth year earlier ≤ daysBeforeMonth year later := by
  induction ordered with
  | refl => exact Nat.le_refl _
  | @step later _ ih =>
    cases later with
    | zero => exact ih
    | succ later => exact Nat.le_trans ih (Nat.le_add_right _ _)

theorem daysBeforeMonth_thirteen (year : Int) : daysBeforeMonth year 13 = yearLength year := by
  simp only [daysBeforeMonth, monthLength, yearLength]
  split <;> rfl

/-- The year of a day: the guess from the mean year length is off by one at most. -/
def yearOfDay (number : Int) : Int :=
  let guess := 400 * (number - 1) / 146097 + 1
  if number ≤ daysBeforeYear guess then guess - 1
  else if daysBeforeYear (guess + 1) < number then guess + 1
  else guess

theorem yearOfDay_bounds (number : Int) :
    daysBeforeYear (yearOfDay number) < number ∧
      number ≤ daysBeforeYear (yearOfDay number + 1) := by
  unfold yearOfDay daysBeforeYear
  dsimp only
  split
  · omega
  · split <;> omega

theorem yearOfDay_eq {number year : Int} (begun : daysBeforeYear year < number)
    (inside : number ≤ daysBeforeYear (year + 1)) : yearOfDay number = year := by
  have bounds := yearOfDay_bounds number
  rcases Int.lt_trichotomy (yearOfDay number) year with before | same | after
  · have := daysBeforeYear_mono (show yearOfDay number + 1 ≤ year by omega)
    omega
  · exact same
  · have := daysBeforeYear_mono (show year + 1 ≤ yearOfDay number by omega)
    omega

/-- The last month up to `latest` that begins before the given day of the year. -/
def monthOfDay (year : Int) (day : Nat) : Nat → Nat
  | 0 => 1
  | 1 => 1
  | latest + 2 =>
      if daysBeforeMonth year (latest + 2) < day then latest + 2
      else monthOfDay year day (latest + 1)

theorem monthOfDay_bounds (year : Int) (day latest : Nat) (positive : 0 < day)
    (inside : 0 < latest) :
    0 < monthOfDay year day latest ∧ monthOfDay year day latest ≤ latest ∧
      daysBeforeMonth year (monthOfDay year day latest) < day ∧
      (monthOfDay year day latest = latest ∨
        day ≤ daysBeforeMonth year (monthOfDay year day latest + 1)) := by
  induction latest with
  | zero => omega
  | succ latest ih =>
    cases latest with
    | zero => simp [monthOfDay, daysBeforeMonth, positive]
    | succ latest =>
      simp only [monthOfDay]
      split
      · rename_i begun
        exact ⟨by omega, by omega, begun, Or.inl rfl⟩
      · rename_i later
        obtain ⟨lower, upper, begun, next⟩ := ih (by omega)
        refine ⟨lower, by omega, begun, Or.inr ?_⟩
        rcases next with last | next
        · rw [last]
          exact Nat.le_of_not_lt later
        · exact next

theorem monthOfDay_eq {year : Int} {day month latest : Nat} (positive : 0 < month)
    (listed : month ≤ latest) (begun : daysBeforeMonth year month < day)
    (inside : day ≤ daysBeforeMonth year (month + 1)) : monthOfDay year day latest = month := by
  obtain ⟨lower, upper, started, next⟩ :=
    monthOfDay_bounds year day latest (Nat.zero_lt_of_lt begun) (by omega)
  rcases Nat.lt_trichotomy (monthOfDay year day latest) month with before | same | after
  · rcases next with last | next
    · omega
    · have := daysBeforeMonth_mono year (show monthOfDay year day latest + 1 ≤ month by omega)
      omega
  · exact same
  · have := daysBeforeMonth_mono year (show month + 1 ≤ monthOfDay year day latest by omega)
    omega

end DateCalculator.Calendar
