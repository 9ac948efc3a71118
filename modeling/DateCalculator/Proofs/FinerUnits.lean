import DateCalculator.Proofs.DurationSum
import DateCalculator.Proofs.GreedyUniqueness

/-!
What rounding leaves in finer units. A rounded length is a multiple of its smallest unit, but its
amounts are taken from the largest unit down, and what the longer units leave need not be a multiple
any more: a year is no whole number of months or weeks, and a month is none of weeks. Days and
shorter units divide every longer one, so there nothing finer is ever left.
-/

namespace DateCalculator

namespace TimeUnit

variable {largest smallest : TimeUnit}

/-- The units from one down to another. -/
def downTo (largest smallest : TimeUnit) : List TimeUnit :=
  largest.downFrom.filter fun unit => smallest.length ≤ unit.length

theorem mem_downTo {unit : TimeUnit} :
    unit ∈ largest.downTo smallest ↔
      unit.length ≤ largest.length ∧ smallest.length ≤ unit.length := by
  simp [downTo, mem_downFrom]

theorem downFrom_eq_append (ordered : smallest.length ≤ largest.length) :
    largest.downFrom = largest.downTo smallest ++ smallest.below := by
  cases largest <;> cases smallest <;> first | rfl | contradiction

theorem mem_below {unit : TimeUnit} : unit ∈ smallest.below ↔ unit.length < smallest.length := by
  simp [below, mem_all]

/-- Days and shorter units divide every longer unit. -/
theorem length_dvd_of_le_day {unit : TimeUnit} (short : smallest.length ≤ day.length)
    (longer : smallest.length ≤ unit.length) : smallest.length ∣ unit.length := by
  cases smallest <;> cases unit <;> first | decide | contradiction

/-- The pairs of units in which a longer one is no whole number of the shorter. -/
theorem mem_of_not_nested (ordered : smallest.length ≤ largest.length)
    (apart : ¬(smallest = largest ∨ smallest.length ≤ day.length)) :
    (smallest, largest) ∈ [(week, month), (week, year), (month, year)] := by
  cases smallest <;> cases largest <;> first | decide | (revert ordered apart; decide)

end TimeUnit

namespace Duration

open TimeUnit

/-- What is left of a length after as many of each unit in turn as fit into it. -/
def remainder (units : List TimeUnit) (length : Nat) : Nat :=
  units.foldl (fun left unit => left % unit.length) length

theorem dvd_remainder {units : List TimeUnit} {step length : Nat} (multiple : step ∣ length)
    (nested : ∀ unit ∈ units, step ∣ unit.length) : step ∣ remainder units length := by
  induction units generalizing length with
  | nil => exact multiple
  | cons first rest ih =>
      have left : step ∣ length % first.length :=
        (Nat.dvd_mod_iff (nested first List.mem_cons_self)).mpr multiple
      exact ih left fun unit member => nested unit (List.mem_cons_of_mem first member)

theorem Bounded.remainder_append {amount : TimeUnit → Nat} {front rest : List TimeUnit}
    (bounded : Bounded amount (front ++ rest)) :
    remainder front (lengthOver (front ++ rest) amount) = lengthOver rest amount := by
  induction front with
  | nil => rfl
  | cons first front ih =>
      rw [List.cons_append] at bounded ⊢
      rw [remainder, List.foldl_cons, bounded.mod_eq]
      exact ih bounded.2

/-- Every amount in a shorter unit is zero. -/
def NothingFiner (unit : TimeUnit) (span : Duration) : Prop :=
  ∀ finer : TimeUnit, finer.length < unit.length → span.get finer = 0

section Balanced

variable {smallest largest : TimeUnit} {span : Duration}

theorem nothingFiner_iff :
    NothingFiner smallest span ↔ lengthOver smallest.below span.magnitude = 0 := by
  constructor
  · intro nothing
    refine lengthOver_eq_zero fun unit member => Int.natAbs_eq_zero.mpr ?_
    exact nothing unit (mem_below.mp member)
  · intro zero finer shorter
    have part := amount_mul_length_le_lengthOver (mem_below.mpr shorter) span.magnitude
    have positive := finer.length_pos
    rw [zero] at part
    rcases Nat.mul_eq_zero.mp (Nat.le_zero.mp part) with none | none
    · exact Int.natAbs_eq_zero.mp none
    · omega

/-- What a balance holds in finer units is what the longer ones leave of the length. -/
theorem Balanced.lengthOver_below (balanced : Balanced largest span)
    (ordered : smallest.length ≤ largest.length) :
    lengthOver smallest.below span.magnitude =
      remainder (largest.downTo smallest) span.totalMilliseconds.natAbs := by
  have bounded := balanced.bounded
  have length := balanced.lengthOver_downFrom
  rw [downFrom_eq_append ordered] at bounded length
  rw [← length, bounded.remainder_append]

theorem Balanced.nothingFiner_iff_remainder (balanced : Balanced largest span)
    (ordered : smallest.length ≤ largest.length) :
    NothingFiner smallest span ↔
      remainder (largest.downTo smallest) span.totalMilliseconds.natAbs = 0 := by
  rw [nothingFiner_iff, balanced.lengthOver_below ordered]

/-- Where the smallest unit divides the length and all the units from the largest down to it, less
than one of it is left and a multiple of it, which is nothing. -/
theorem Balanced.nothingFiner_of_dvd (balanced : Balanced largest span)
    (ordered : smallest.length ≤ largest.length)
    (multiple : smallest.length ∣ span.totalMilliseconds.natAbs)
    (nested : ∀ unit ∈ largest.downTo smallest, smallest.length ∣ unit.length) :
    NothingFiner smallest span := by
  have short := balanced.below smallest ordered
  have divides := dvd_remainder multiple nested
  rw [← balanced.lengthOver_below ordered] at divides
  exact nothingFiner_iff.mpr (Nat.eq_zero_of_dvd_of_lt divides short)

end Balanced

section Round

variable {smallest largest : TimeUnit}

theorem balanced_round (span : Duration) (smallest largest : TimeUnit) :
    Balanced largest (span.round smallest largest) := by
  rw [round_eq]
  exact balanced_ofMilliseconds _ largest

/-- A unit that divides the smallest one and the units from the largest down to it stays clean. -/
theorem nothingFiner_round (span : Duration) {unit : TimeUnit}
    (inside : unit.length ≤ largest.length) (divides : unit.length ∣ smallest.length)
    (nested : ∀ other ∈ largest.downTo unit, unit.length ∣ other.length) :
    NothingFiner unit (span.round smallest largest) := by
  refine (span.balanced_round smallest largest).nothingFiner_of_dvd inside ?_ nested
  have multiple := (span.roundsTo_round smallest largest).multiple
  exact Nat.dvd_trans divides (Int.ofNat_dvd_left.mp multiple)

theorem nothingFiner_round_of_nested (span : Duration) (ordered : smallest.length ≤ largest.length)
    (nested : smallest = largest ∨ smallest.length ≤ day.length) :
    NothingFiner smallest (span.round smallest largest) := by
  refine span.nothingFiner_round ordered (Nat.dvd_refl _) fun unit member => ?_
  obtain ⟨below, above⟩ := mem_downTo.mp member
  rcases nested with same | short
  · subst same
    exact Nat.dvd_of_mod_eq_zero (by rw [Nat.le_antisymm below above, Nat.mod_self])
  · exact length_dvd_of_le_day short above

/-- Nothing finer than a day is left in any case. -/
theorem nothingFiner_round_shorter_day (span : Duration)
    (ordered : smallest.length ≤ largest.length) :
    NothingFiner (smallest.shorter .day) (span.round smallest largest) := by
  have length := length_shorter smallest .day
  have short : (smallest.shorter day).length ≤ day.length := by omega
  refine span.nothingFiner_round (by omega) (length_dvd_of_le_day short (by omega))
    fun unit member => ?_
  exact length_dvd_of_le_day short (mem_downTo.mp member).2

/-- Five weeks are a month and five days, fifty-three are a year and six days, and thirteen months
are a year, three weeks and four days. -/
theorem exists_finer_round
    (apart : (smallest, largest) ∈ [(week, month), (week, year), (month, year)]) :
    ∃ span : Duration, ¬ NothingFiner smallest (span.round smallest largest) := by
  have finer (span : Duration) (shorter : day.length < smallest.length)
      (shown : (span.round smallest largest).get .day ≠ 0) :
      ∃ span : Duration, ¬ NothingFiner smallest (span.round smallest largest) :=
    ⟨span, fun nothing => shown (nothing .day shorter)⟩
  simp only [List.mem_cons, Prod.mk.injEq, List.not_mem_nil, or_false] at apart
  rcases apart with ⟨rfl, rfl⟩ | ⟨rfl, rfl⟩ | ⟨rfl, rfl⟩
  · exact finer (inUnit false 5 .week) (by decide) (by decide +kernel)
  · exact finer (inUnit false 53 .week) (by decide) (by decide +kernel)
  · exact finer (inUnit false 13 .month) (by decide) (by decide +kernel)

end Round

/-- What a rounded duration holds in units finer than its smallest: nothing, if the longer units
leave no remainder of its length, and nothing finer than a day in any case. For days and shorter
units, and where only one unit is used, this means that nothing finer is ever left; for weeks under
months or years and for months under years something is left of some durations. -/
theorem nothingFiner_round_iff (smallest largest : TimeUnit)
    (ordered : smallest.length ≤ largest.length) :
    (∀ span : Duration,
      (NothingFiner smallest (span.round smallest largest) ↔
        remainder (largest.downTo smallest)
          (span.round smallest largest).totalMilliseconds.natAbs = 0) ∧
      NothingFiner (smallest.shorter .day) (span.round smallest largest)) ∧
    ((∀ span : Duration, NothingFiner smallest (span.round smallest largest)) ↔
      smallest = largest ∨ smallest.length ≤ day.length) := by
  refine ⟨fun span => ⟨?_, span.nothingFiner_round_shorter_day ordered⟩, ?_, ?_⟩
  · exact (span.balanced_round smallest largest).nothingFiner_iff_remainder ordered
  · intro every
    apply Decidable.byContradiction
    intro apart
    obtain ⟨span, finer⟩ := exists_finer_round (mem_of_not_nested ordered apart)
    exact finer (every span)
  · intro nested span
    exact span.nothingFiner_round_of_nested ordered nested

/-- Thirty days rounded to weeks and balanced from months: four weeks, and nothing finer. -/
theorem nothingFiner_round_iff_thirtyDays :
    TimeUnit.week.length ≤ TimeUnit.month.length ∧
    ((inUnit true 30 .day).round .week .month).text = "-P4W" ∧
    NothingFiner .week ((inUnit true 30 .day).round .week .month) := by
  have ordered : TimeUnit.week.length ≤ TimeUnit.month.length := by decide
  obtain ⟨exact, -⟩ := nothingFiner_round_iff .week .month ordered
  exact ⟨ordered, by decide +kernel, (exact _).1.mpr (by decide +kernel)⟩

/-- Thirteen months rounded to months and balanced from years are a year, three weeks and four
days. -/
theorem not_nothingFiner_round :
    ¬ ∀ (span : Duration) (smallest largest : TimeUnit), smallest.length ≤ largest.length →
      ∀ finer : TimeUnit, finer.length < smallest.length →
        (span.round smallest largest).get finer = 0 := by
  intro every
  have days := every (inUnit false 13 .month) .month .year (by decide) .day (by decide)
  have four : ((inUnit false 13 .month).round .month .year).get .day = 4 := by decide +kernel
  omega

end Duration

end DateCalculator
