import DateCalculator.Proofs.GreedyBalance

/-!
Rounded durations. A length is rounded to the nearest multiple of a step, and half a step is rounded
away from zero. This alone determines the rounded length, so rounding keeps the order of lengths,
treats both signs alike and leaves a rounded duration as it is.
-/

namespace DateCalculator

/-- A nearest multiple of the step, and of two the one farther from zero. -/
structure RoundsTo (step : Nat) (length rounded : Int) : Prop where
  multiple : (step : Int) ∣ rounded
  near : 2 * (rounded - length).natAbs ≤ step
  outward : ∀ other : Int, (step : Int) ∣ other →
    (other - length).natAbs = (rounded - length).natAbs → other.natAbs ≤ rounded.natAbs

namespace RoundsTo

variable {step : Nat} {length rounded : Int}

/-- Multiples of the step that are not more than a step apart are equal or neighbours. -/
theorem neighbours {first second : Int} (firstMultiple : (step : Int) ∣ first)
    (secondMultiple : (step : Int) ∣ second) (close : (first - second).natAbs ≤ step) :
    first = second ∨ (first - second).natAbs = step := by
  by_cases same : first = second
  · exact .inl same
  · right
    have apart : 0 < (first - second).natAbs := by omega
    have divides : step ∣ (first - second).natAbs :=
      Int.ofNat_dvd_left.mp (Int.dvd_sub firstMultiple secondMultiple)
    exact Nat.le_antisymm close (Nat.le_of_dvd apart divides)

theorem unique {other : Int} (positive : 0 < step) (rounds : RoundsTo step length rounded)
    (others : RoundsTo step length other) : rounded = other := by
  have near := rounds.near
  have otherNear := others.near
  rcases neighbours rounds.multiple others.multiple (by omega) with same | apart
  · exact same
  · -- Both are half a step away, so neither is farther from zero, and they are opposite.
    have farther := rounds.outward other others.multiple (by omega)
    have nearer := others.outward rounded rounds.multiple (by omega)
    have divides : step ∣ rounded.natAbs := Int.ofNat_dvd_left.mp rounds.multiple
    have least : step ≤ rounded.natAbs ∨ rounded.natAbs = 0 := by
      rcases Nat.eq_zero_or_pos rounded.natAbs with zero | shown
      · exact .inr zero
      · exact .inl (Nat.le_of_dvd shown divides)
    omega

theorem neg (rounds : RoundsTo step length rounded) : RoundsTo step (-length) (-rounded) where
  multiple := Int.dvd_neg.mpr rounds.multiple
  near := by
    have near := rounds.near
    omega
  outward other multiple same := by
    have farther := rounds.outward (-other) (Int.dvd_neg.mpr multiple) (by omega)
    omega

theorem mono {other otherRounded : Int} (positive : 0 < step)
    (rounds : RoundsTo step length rounded) (others : RoundsTo step other otherRounded)
    (ordered : length ≤ other) : rounded ≤ otherRounded := by
  apply Int.not_lt.mp
  intro descending
  have near := rounds.near
  have otherNear := others.near
  rcases neighbours rounds.multiple others.multiple (by omega) with same | apart
  · omega
  · -- A whole step back leaves no room between the lengths.
    have equal : length = other := by omega
    subst equal
    have same := rounds.unique positive others
    omega

theorem of_multiple (multiple : (step : Int) ∣ length) : RoundsTo step length length where
  multiple := multiple
  near := by
    rw [Int.sub_self, Int.natAbs_zero]
    exact Nat.zero_le step
  outward other _ same := by
    have equal : other = length := by omega
    exact Nat.le_of_eq (congrArg Int.natAbs equal)

end RoundsTo

/-- The magnitude that is a whole number of steps after half a step has been added to it. -/
def roundedMagnitude (step magnitude : Nat) : Nat := (magnitude + step / 2) / step * step

theorem roundsTo_roundedMagnitude {step : Nat} (positive : 0 < step) (magnitude : Nat) :
    RoundsTo step magnitude (roundedMagnitude step magnitude) := by
  have parts := Nat.div_add_mod' (magnitude + step / 2) step
  have left := Nat.mod_lt (magnitude + step / 2) positive
  have multiple : (step : Int) ∣ roundedMagnitude step magnitude :=
    Int.natCast_dvd_natCast.mpr (Nat.dvd_mul_left step _)
  change roundedMagnitude step magnitude + _ = _ at parts
  have near : 2 * ((roundedMagnitude step magnitude : Int) - magnitude).natAbs ≤ step := by omega
  refine ⟨multiple, near, fun other otherMultiple same => ?_⟩
  rcases RoundsTo.neighbours otherMultiple multiple (by omega) with equal | apart
  · exact Nat.le_of_eq (congrArg Int.natAbs equal)
  · omega

namespace Duration

def roundedLength (span : Duration) (step : Nat) : Int :=
  signed (span.totalMilliseconds < 0) (roundedMagnitude step span.totalMilliseconds.natAbs)

theorem round_eq (span : Duration) (smallest largest : TimeUnit) :
    span.round smallest largest = ofMilliseconds (span.roundedLength smallest.length) largest := by
  simp only [round, roundedLength, signed, roundedMagnitude, decide_eq_true_eq]

theorem roundsTo_roundedLength (span : Duration) {step : Nat} (positive : 0 < step) :
    RoundsTo step span.totalMilliseconds (span.roundedLength step) := by
  have rounds := roundsTo_roundedMagnitude positive span.totalMilliseconds.natAbs
  unfold roundedLength
  by_cases negative : span.totalMilliseconds < 0
  · have opposite : span.totalMilliseconds = -(span.totalMilliseconds.natAbs : Int) := by omega
    rw [decide_eq_true negative, opposite, Int.natAbs_neg, Int.natAbs_natCast]
    exact rounds.neg
  · have same : span.totalMilliseconds = (span.totalMilliseconds.natAbs : Int) := by omega
    rw [decide_eq_false negative, same, Int.natAbs_natCast]
    exact rounds

/-- Every amount with the other sign. -/
def opposite (span : Duration) : Duration where
  toFields := .tabulate fun unit => -span.get unit
  oneSign := by
    unfold Fields.OneSign
    simp only [Fields.get_tabulate]
    rcases span.oneSign with positive | negative
    · exact .inr fun unit member => Int.neg_nonpos_of_nonneg (positive unit member)
    · exact .inl fun unit member => Int.neg_nonneg_of_nonpos (negative unit member)

@[simp] theorem get_opposite (span : Duration) (unit : TimeUnit) :
    span.opposite.get unit = -span.get unit :=
  Fields.get_tabulate _ unit

theorem totalMilliseconds_opposite (span : Duration) :
    span.opposite.totalMilliseconds = -span.totalMilliseconds := by
  have general (units : List TimeUnit) :
      units.foldr (fun unit total => span.opposite.get unit * unit.length + total) 0 =
        -units.foldr (fun unit total => span.get unit * unit.length + total) 0 := by
    induction units with
    | nil => rfl
    | cons unit units ih =>
        rw [List.foldr_cons, List.foldr_cons, ih, get_opposite, Int.neg_mul, Int.neg_add]
  exact general TimeUnit.all

theorem ofMilliseconds_neg (total : Int) (largest : TimeUnit) :
    ofMilliseconds (-total) largest = (ofMilliseconds total largest).opposite := by
  refine eq_of_get fun unit => ?_
  rw [get_opposite, get_ofMilliseconds_neg]

section Round

variable (span : Duration) (smallest largest : TimeUnit)

theorem roundsTo_round : RoundsTo smallest.length span.totalMilliseconds
    (span.round smallest largest).totalMilliseconds := by
  rw [round_eq, totalMilliseconds_ofMilliseconds]
  exact span.roundsTo_roundedLength smallest.length_pos

theorem round_eq_of_roundsTo {rounded : Int}
    (rounds : RoundsTo smallest.length span.totalMilliseconds rounded) :
    span.round smallest largest = ofMilliseconds rounded largest := by
  rw [round_eq, (span.roundsTo_roundedLength smallest.length_pos).unique smallest.length_pos rounds]

theorem round_opposite :
    span.opposite.round smallest largest = (span.round smallest largest).opposite := by
  have rounds := (span.roundsTo_roundedLength smallest.length_pos).neg
  rw [← totalMilliseconds_opposite] at rounds
  rw [round_eq_of_roundsTo _ _ largest rounds, ofMilliseconds_neg, ← round_eq]

theorem round_round : (span.round smallest largest).round smallest largest =
    span.round smallest largest := by
  have fixed := RoundsTo.of_multiple (span.roundsTo_round smallest largest).multiple
  rw [round_eq_of_roundsTo _ _ largest fixed]
  conv => rhs; rw [round_eq]
  rw [round_eq, totalMilliseconds_ofMilliseconds]

end Round

/-- The laws of rounding: the rounded length is the nearest multiple of the smallest unit, away from
zero for half of one; the opposite duration is rounded to the opposite amounts; what is rounded is
not changed by rounding again; and no shorter duration is rounded to a longer one. -/
theorem round_to_nearest (span : Duration) (smallest largest : TimeUnit) :
    RoundsTo smallest.length span.totalMilliseconds
      (span.round smallest largest).totalMilliseconds ∧
    span.opposite.round smallest largest = (span.round smallest largest).opposite ∧
    (span.round smallest largest).round smallest largest = span.round smallest largest ∧
    ∀ other : Duration, span.totalMilliseconds ≤ other.totalMilliseconds →
      (span.round smallest largest).totalMilliseconds ≤
        (other.round smallest largest).totalMilliseconds := by
  refine ⟨span.roundsTo_round smallest largest, span.round_opposite smallest largest,
    span.round_round smallest largest, fun other ordered => ?_⟩
  exact (span.roundsTo_round smallest largest).mono smallest.length_pos
    (other.roundsTo_round smallest largest) ordered

/-- A minute and a half before, and half a minute after. -/
theorem round_to_nearest_halfMinutes :
    (ofMilliseconds (-90000) .second).totalMilliseconds ≤
        (ofMilliseconds 30000 .second).totalMilliseconds ∧
    ((ofMilliseconds (-90000) .second).round .minute .day).text = "-PT2M" ∧
    ((ofMilliseconds 30000 .second).round .minute .day).text = "PT1M" ∧
    ((ofMilliseconds (-90000) .second).round .minute .day).totalMilliseconds ≤
      ((ofMilliseconds 30000 .second).round .minute .day).totalMilliseconds := by
  have ordered : (ofMilliseconds (-90000) .second).totalMilliseconds ≤
      (ofMilliseconds 30000 .second).totalMilliseconds := by
    rw [totalMilliseconds_ofMilliseconds, totalMilliseconds_ofMilliseconds]
    decide
  obtain ⟨-, -, -, monotone⟩ := round_to_nearest (ofMilliseconds (-90000) .second) .minute .day
  exact ⟨ordered, by decide +kernel, by decide +kernel, monotone _ ordered⟩

end Duration

end DateCalculator
