import DateCalculator.Proofs.RoundingInterval

/-!
Shortest decimals. The search for the digits of a double goes from a grid on which the double lies
below the first point, and so far that the double itself is a point; it stops at the first grid with
a point in the rounding interval and takes the nearest one there. So no coarser grid has such a
point. A point whose last digit is zero lies on the grid before as well, and therefore a shortest
decimal has no zero at its end.
-/

namespace DateCalculator.Number

open Float.Model.UnpackedFloat

namespace Decimal

variable {decimal : Decimal}

/-- The number that a decimal stands for. -/
def magnitude (decimal : Decimal) : ℚ := decimal.coefficient * 10 ^ decimal.exponent

/-- How many digits stand before the point. -/
def point (decimal : Decimal) : Int :=
  (Nat.toDigits 10 decimal.coefficient).length + decimal.exponent

/-- The number lies between the powers of ten around its first digit. -/
theorem magnitude_bounds (positive : 0 < decimal.coefficient) :
    10 ^ (decimal.point - 1) ≤ decimal.magnitude ∧ decimal.magnitude < 10 ^ decimal.point := by
  have short (count : Nat) (some : 0 < count) :=
    Nat.length_toDigits_le_iff (n := decimal.coefficient) (b := 10) (by decide) some
  have shown := Nat.length_toDigits_pos (b := 10) (n := decimal.coefficient)
  unfold magnitude point
  generalize (Nat.toDigits 10 decimal.coefficient).length = count at short shown
  obtain ⟨others, rfl⟩ : ∃ others, count = others + 1 := ⟨count - 1, by omega⟩
  have upper : decimal.coefficient < 10 ^ (others + 1) := (short _ shown).mp (Nat.le_refl _)
  have lower : 10 ^ others ≤ decimal.coefficient := by
    rcases Nat.eq_zero_or_pos others with rfl | several
    · exact positive
    · have longer := mt (short others several).mpr (by omega)
      omega
  have power : (0 : ℚ) < 10 ^ decimal.exponent := zpow_pos (by norm_num) _
  constructor
  · calc
      (10 : ℚ) ^ (((others + 1 : Nat) : Int) + decimal.exponent - 1)
          = 10 ^ others * 10 ^ decimal.exponent := by
            rw [← zpow_natCast, ← zpow_add₀ (by norm_num)]
            congr 1
            omega
      _ ≤ decimal.coefficient * 10 ^ decimal.exponent :=
            mul_le_mul_of_nonneg_right (by exact_mod_cast lower) (le_of_lt power)
  · calc
      (decimal.coefficient : ℚ) * 10 ^ decimal.exponent
          < 10 ^ (others + 1) * 10 ^ decimal.exponent :=
            mul_lt_mul_of_pos_right (by exact_mod_cast upper) power
      _ = 10 ^ (((others + 1 : Nat) : Int) + decimal.exponent) := by
            rw [← zpow_natCast, ← zpow_add₀ (by norm_num)]

end Decimal

section Grid

variable {mantissa coefficient : Nat} {exponent grid : Int}

theorem spacing_pos (grid : Int) : (0 : ℚ) < 10 ^ grid := zpow_pos (by norm_num) _

theorem point_le_point (grid : Int) {first second : Nat} (order : first ≤ second) :
    (first : ℚ) * 10 ^ grid ≤ second * 10 ^ grid :=
  mul_le_mul_of_nonneg_right (Nat.cast_le.mpr order) (le_of_lt (spacing_pos grid))

theorem point_lt_point (grid : Int) {first second : Nat} (order : first < second) :
    (first : ℚ) * 10 ^ grid < second * 10 ^ grid :=
  mul_lt_mul_of_pos_right (Nat.cast_lt.mpr order) (spacing_pos grid)

theorem zpow_mul_pow_toNat {base : ℚ} (nonzero : base ≠ 0) (power : Int) :
    base ^ power * base ^ (-power).toNat = base ^ power.toNat := by
  rw [← zpow_natCast, ← zpow_natCast, ← zpow_add₀ nonzero]
  congr 1
  omega

/-- The distance of two points of a grid, in the units that the double is measured in. -/
def gridStep (exponent grid : Int) : Nat := Nat.pow 10 grid.toNat * Nat.pow 2 (2 - exponent).toNat

/-- A quarter of the last bit in these units. -/
def gridUnit (exponent grid : Int) : Nat :=
  Nat.pow 10 (-grid).toNat * Nat.pow 2 (exponent - 2).toNat

/-- How many of the units make up one. -/
def gridScale (exponent grid : Int) : ℚ := 10 ^ (-grid).toNat * 2 ^ (2 - exponent).toNat

theorem gridScale_pos (exponent grid : Int) : 0 < gridScale exponent grid := by
  unfold gridScale
  positivity

theorem steps_eq (count : Nat) (exponent grid : Int) :
    ((count * gridStep exponent grid : Nat) : ℚ) =
      count * 10 ^ grid * gridScale exponent grid := by
  have ten := @zpow_mul_pow_toNat 10 (by norm_num) grid
  rw [gridScale, mul_assoc, ← mul_assoc (10 ^ grid), ten, gridStep]
  norm_num

theorem units_eq (count : Nat) (exponent grid : Int) :
    ((count * gridUnit exponent grid : Nat) : ℚ) =
      count * 2 ^ (exponent - 2) * gridScale exponent grid := by
  have opposite : 2 - exponent = -(exponent - 2) := by omega
  have two := @zpow_mul_pow_toNat 2 (by norm_num) (exponent - 2)
  rw [gridScale, opposite, mul_assoc, mul_left_comm (2 ^ (exponent - 2)), two, gridUnit]
  norm_num

/-- What the search compares is whether a point of the grid is in the rounding interval. -/
theorem roundsTo_iff :
    roundsTo mantissa exponent (gridUnit exponent grid) (gridStep exponent grid) coefficient =
        true ↔ Rounds mantissa exponent (coefficient * 10 ^ grid) := by
  have scale := gridScale_pos exponent grid
  have le_iff (count : Nat) :
      count * gridUnit exponent grid ≤ coefficient * gridStep exponent grid ↔
        (count : ℚ) * 2 ^ (exponent - 2) ≤ coefficient * 10 ^ grid := by
    rw [← mul_le_mul_iff_left₀ scale, ← units_eq, ← steps_eq, Nat.cast_le]
  have ge_iff (count : Nat) :
      coefficient * gridStep exponent grid ≤ count * gridUnit exponent grid ↔
        (coefficient : ℚ) * 10 ^ grid ≤ count * 2 ^ (exponent - 2) := by
    rw [← mul_le_mul_iff_left₀ scale, ← units_eq, ← steps_eq, Nat.cast_le]
  have lower : (if HasNarrowLowerGap mantissa exponent then 4 * mantissa - 1
      else 4 * mantissa - 2) = lowerQuarters mantissa exponent := rfl
  simp only [roundsTo, Rounds, lower, lowerMidpoint, upperMidpoint]
  split
  · simp only [Bool.and_eq_true, decide_eq_true_eq, le_iff, ge_iff]
  · simp only [Bool.and_eq_true, decide_eq_true_eq, ← not_le, le_iff, ge_iff]

/-- The last point of a grid that is not above the double. -/
def pointBelow (mantissa : Nat) (exponent grid : Int) : Nat :=
  4 * mantissa * gridUnit exponent grid / gridStep exponent grid

theorem target_eq (mantissa : Nat) (exponent grid : Int) :
    ((4 * mantissa * gridUnit exponent grid : Nat) : ℚ) =
      binary mantissa exponent * gridScale exponent grid := by
  rw [units_eq, ← binary_eq_quarters]

theorem gridStep_pos (exponent grid : Int) : 0 < gridStep exponent grid :=
  Nat.mul_pos (Nat.pow_pos (by decide)) (Nat.pow_pos (by decide))

theorem pointBelow_mul_le (mantissa : Nat) (exponent grid : Int) :
    pointBelow mantissa exponent grid * gridStep exponent grid ≤
      4 * mantissa * gridUnit exponent grid := Nat.div_mul_le_self _ _

theorem lt_pointBelow_succ_mul (mantissa : Nat) (exponent grid : Int) :
    4 * mantissa * gridUnit exponent grid <
      (pointBelow mantissa exponent grid + 1) * gridStep exponent grid := by
  rw [Nat.mul_comm (pointBelow mantissa exponent grid + 1)]
  exact Nat.lt_mul_div_succ _ (gridStep_pos exponent grid)

/-- How far the double is above the last point that is not above it. -/
def downward (mantissa : Nat) (exponent grid : Int) : Nat :=
  4 * mantissa * gridUnit exponent grid -
    pointBelow mantissa exponent grid * gridStep exponent grid

/-- How far the double is below the next point. -/
def upward (mantissa : Nat) (exponent grid : Int) : Nat :=
  (pointBelow mantissa exponent grid + 1) * gridStep exponent grid -
    4 * mantissa * gridUnit exponent grid

theorem pointBelow_le (mantissa : Nat) (exponent grid : Int) :
    (pointBelow mantissa exponent grid : ℚ) * 10 ^ grid ≤ binary mantissa exponent := by
  rw [← mul_le_mul_iff_left₀ (gridScale_pos exponent grid), ← steps_eq, ← target_eq]
  exact_mod_cast pointBelow_mul_le mantissa exponent grid

theorem lt_pointBelow_succ (mantissa : Nat) (exponent grid : Int) :
    binary mantissa exponent < (pointBelow mantissa exponent grid + 1 : Nat) * 10 ^ grid := by
  rw [← mul_lt_mul_iff_left₀ (gridScale_pos exponent grid), ← steps_eq, ← target_eq]
  exact_mod_cast lt_pointBelow_succ_mul mantissa exponent grid

theorem downward_eq (mantissa : Nat) (exponent grid : Int) :
    (downward mantissa exponent grid : ℚ) =
      |pointBelow mantissa exponent grid * 10 ^ grid - binary mantissa exponent| *
        gridScale exponent grid := by
  rw [downward, Nat.cast_sub (pointBelow_mul_le mantissa exponent grid), target_eq, steps_eq,
    abs_sub_comm, abs_of_nonneg (sub_nonneg.mpr (pointBelow_le mantissa exponent grid)), sub_mul]

theorem upward_eq (mantissa : Nat) (exponent grid : Int) :
    (upward mantissa exponent grid : ℚ) =
      |(pointBelow mantissa exponent grid + 1 : Nat) * 10 ^ grid - binary mantissa exponent| *
        gridScale exponent grid := by
  rw [upward, Nat.cast_sub (Nat.le_of_lt (lt_pointBelow_succ_mul mantissa exponent grid)),
    target_eq, steps_eq,
    abs_of_pos (sub_pos.mpr (lt_pointBelow_succ mantissa exponent grid)), sub_mul]

/-- The search takes one of the two points beside the double; if both are in the interval, it is the
nearer one, or the even one of two equally near. -/
theorem gridPoint?_cases (found : gridPoint? mantissa exponent grid = some coefficient) :
    Rounds mantissa exponent (coefficient * 10 ^ grid) ∧
      (coefficient = pointBelow mantissa exponent grid ∧
          (Rounds mantissa exponent ((pointBelow mantissa exponent grid + 1 : Nat) * 10 ^ grid) →
            downward mantissa exponent grid < upward mantissa exponent grid ∨
              downward mantissa exponent grid = upward mantissa exponent grid ∧
                coefficient % 2 = 0) ∨
        coefficient = pointBelow mantissa exponent grid + 1 ∧
          (Rounds mantissa exponent (pointBelow mantissa exponent grid * 10 ^ grid) →
            upward mantissa exponent grid < downward mantissa exponent grid ∨
              upward mantissa exponent grid = downward mantissa exponent grid ∧
                coefficient % 2 = 0)) := by
  unfold gridPoint? at found
  dsimp only at found
  split at found
  next => contradiction
  next below above =>
    cases found
    refine ⟨roundsTo_iff.mp below, .inl ⟨rfl, fun rounds => ?_⟩⟩
    exact absurd ((roundsTo_iff.mpr rounds).symm.trans above) (by decide)
  next below above =>
    cases found
    refine ⟨roundsTo_iff.mp above, .inr ⟨rfl, fun rounds => ?_⟩⟩
    exact absurd ((roundsTo_iff.mpr rounds).symm.trans below) (by decide)
  next below above =>
    split at found
    next nearer =>
      cases found
      exact ⟨roundsTo_iff.mp below, .inl ⟨rfl, fun _ => nearer⟩⟩
    next farther =>
      cases found
      refine ⟨roundsTo_iff.mp above, .inr ⟨rfl, fun _ => ?_⟩⟩
      change ¬(downward mantissa exponent grid < upward mantissa exponent grid ∨
        downward mantissa exponent grid = upward mantissa exponent grid ∧
          pointBelow mantissa exponent grid % 2 = 0) at farther
      change _ ∨ _ ∧ (pointBelow mantissa exponent grid + 1) % 2 = 0
      omega

theorem gridPoint?_rounds (found : gridPoint? mantissa exponent grid = some coefficient) :
    Rounds mantissa exponent (coefficient * 10 ^ grid) := (gridPoint?_cases found).1

/-- Nearer to the double than another number, or as near and even. -/
def Preferred (mantissa : Nat) (exponent grid : Int) (coefficient : Nat) (other : ℚ) : Prop :=
  |coefficient * 10 ^ grid - binary mantissa exponent| < |other - binary mantissa exponent| ∨
    |coefficient * 10 ^ grid - binary mantissa exponent| = |other - binary mantissa exponent| ∧
      coefficient % 2 = 0

theorem Preferred.of_units {other : ℚ} {units otherUnits : Nat}
    (counted : (units : ℚ) =
      |coefficient * 10 ^ grid - binary mantissa exponent| * gridScale exponent grid)
    (otherCounted : (otherUnits : ℚ) =
      |other - binary mantissa exponent| * gridScale exponent grid)
    (nearer : units < otherUnits ∨ units = otherUnits ∧ coefficient % 2 = 0) :
    Preferred mantissa exponent grid coefficient other := by
  have scale := gridScale_pos exponent grid
  rw [Preferred, ← mul_lt_mul_iff_left₀ scale, ← mul_left_inj' (ne_of_gt scale), ← counted,
    ← otherCounted]
  exact_mod_cast nearer

theorem Preferred.trans_lt {other farther : ℚ}
    (preferred : Preferred mantissa exponent grid coefficient other)
    (less : |other - binary mantissa exponent| < |farther - binary mantissa exponent|) :
    Preferred mantissa exponent grid coefficient farther := by
  rcases preferred with nearer | ⟨same, -⟩
  · exact .inl (nearer.trans less)
  · exact .inl (same.trans_lt less)

theorem abs_sub_lt_of_lt_pointBelow (less : coefficient < pointBelow mantissa exponent grid) :
    |pointBelow mantissa exponent grid * 10 ^ grid - binary mantissa exponent| <
      |coefficient * 10 ^ grid - binary mantissa exponent| := by
  have below := pointBelow_le mantissa exponent grid
  have order := point_lt_point grid less
  rw [abs_of_nonpos (by linarith), abs_of_nonpos (by linarith)]
  linarith

theorem abs_sub_lt_of_pointBelow_lt (more : pointBelow mantissa exponent grid + 1 < coefficient) :
    |(pointBelow mantissa exponent grid + 1 : Nat) * 10 ^ grid - binary mantissa exponent| <
      |coefficient * 10 ^ grid - binary mantissa exponent| := by
  have above := lt_pointBelow_succ mantissa exponent grid
  have order := point_lt_point grid more
  rw [abs_of_nonneg (by linarith), abs_of_nonneg (by linarith)]
  linarith

/-- If a point of a grid is in the interval, so is the one beside the double on the same side. -/
theorem rounds_beside (positive : 0 < mantissa)
    (rounds : Rounds mantissa exponent (coefficient * 10 ^ grid)) :
    (coefficient ≤ pointBelow mantissa exponent grid →
      Rounds mantissa exponent (pointBelow mantissa exponent grid * 10 ^ grid)) ∧
    (pointBelow mantissa exponent grid + 1 ≤ coefficient →
      Rounds mantissa exponent ((pointBelow mantissa exponent grid + 1 : Nat) * 10 ^ grid)) := by
  have below := pointBelow_le mantissa exponent grid
  have above := lt_pointBelow_succ mantissa exponent grid
  constructor
  · intro less
    exact rounds.convex (rounds_binary positive) (point_le_point grid less) below
  · intro more
    exact (rounds_binary positive).convex rounds (le_of_lt above) (point_le_point grid more)

/-- The search takes the nearest point of a grid. -/
theorem gridPoint?_preferred (positive : 0 < mantissa) {other : Nat}
    (found : gridPoint? mantissa exponent grid = some coefficient)
    (rounds : Rounds mantissa exponent (other * 10 ^ grid)) (different : other ≠ coefficient) :
    Preferred mantissa exponent grid coefficient (other * 10 ^ grid) := by
  have down := downward_eq mantissa exponent grid
  have up := upward_eq mantissa exponent grid
  obtain ⟨-, ⟨rfl, chosen⟩ | ⟨rfl, chosen⟩⟩ := gridPoint?_cases found
  · rcases Nat.lt_or_gt_of_ne different with less | more
    · exact .inl (abs_sub_lt_of_lt_pointBelow less)
    · have next := Preferred.of_units down up (chosen ((rounds_beside positive rounds).2 more))
      rcases Nat.lt_or_eq_of_le more with farther | same
      · exact next.trans_lt (abs_sub_lt_of_pointBelow_lt farther)
      · rwa [← same]
  · rcases Nat.lt_or_gt_of_ne different with less | more
    · have less := Nat.le_of_lt_succ less
      have next := Preferred.of_units up down (chosen ((rounds_beside positive rounds).1 less))
      rcases Nat.lt_or_eq_of_le less with farther | same
      · exact next.trans_lt (abs_sub_lt_of_lt_pointBelow farther)
      · rwa [same]
    · exact .inl (abs_sub_lt_of_pointBelow_lt more)

/-- A grid with a point in the interval has one beside the double. -/
theorem gridPoint?_ne_none (positive : 0 < mantissa)
    (rounds : Rounds mantissa exponent (coefficient * 10 ^ grid)) :
    gridPoint? mantissa exponent grid ≠ none := by
  have beside := rounds_beside positive rounds
  rw [← roundsTo_iff, ← roundsTo_iff] at beside
  intro none
  unfold gridPoint? at none
  dsimp only at none
  split at none
  next below above =>
    rcases Nat.lt_or_ge (pointBelow mantissa exponent grid) coefficient with more | less
    · exact absurd ((beside.2 more).symm.trans above) (by decide)
    · exact absurd ((beside.1 less).symm.trans below) (by decide)
  · contradiction
  · contradiction
  · split at none <;> contradiction

/-- The finest grid holds the double itself. -/
theorem gridPoint?_finest (exponent : Int) (positive : 0 < mantissa) :
    gridPoint? mantissa exponent (min exponent 0) ≠ none := by
  have exact : ∃ point : Nat, binary mantissa exponent = point * 10 ^ (min exponent 0) := by
    rcases Int.lt_or_le exponent 0 with negative | nonnegative
    · -- A binary digit behind the point is a decimal one there: `1 / 2 = 5 / 10`.
      refine ⟨mantissa * 5 ^ (-exponent).toNat, ?_⟩
      have ten : (10 : ℚ) ^ exponent = 5 ^ exponent * 2 ^ exponent := by
        rw [← mul_zpow]
        norm_num
      have five := @zpow_mul_pow_toNat 5 (by norm_num) exponent
      have whole : exponent.toNat = 0 := by omega
      rw [whole, pow_zero] at five
      rw [min_eq_left (by omega), ten, binary]
      push_cast
      linear_combination -(mantissa : ℚ) * 2 ^ exponent * five
    · refine ⟨mantissa * 2 ^ exponent.toNat, ?_⟩
      rw [min_eq_right nonnegative, zpow_zero, mul_one, binary]
      push_cast
      rw [← zpow_natCast, Int.toNat_of_nonneg nonnegative]
  obtain ⟨point, same⟩ := exact
  have rounds := @rounds_binary mantissa exponent positive
  rw [same] at rounds
  exact gridPoint?_ne_none positive rounds

end Grid

section Refine

variable {mantissa : Nat} {exponent : Int}

/-- No grid coarser than this one has a point in the interval. -/
def NothingCoarser (mantissa : Nat) (exponent grid : Int) : Prop :=
  ∀ (coarser : Int) (coefficient : Nat), grid < coarser →
    ¬Rounds mantissa exponent (coefficient * 10 ^ coarser)

/-- The search ends on the coarsest grid with a point, if no grid before the first has one. -/
theorem refine_spec (positive : 0 < mantissa) {steps : Nat} {grid : Int}
    (last : grid - steps = min exponent 0) (nothing : NothingCoarser mantissa exponent grid) :
    gridPoint? mantissa exponent (refine mantissa exponent steps grid).exponent =
        some (refine mantissa exponent steps grid).coefficient ∧
      NothingCoarser mantissa exponent (refine mantissa exponent steps grid).exponent := by
  induction steps generalizing grid with
  | zero =>
      have finest : grid = min exponent 0 := by omega
      have found := gridPoint?_finest exponent positive
      rw [← finest] at found
      obtain ⟨coefficient, point⟩ := Option.ne_none_iff_exists'.mp found
      have stopped : refine mantissa exponent 0 grid = ⟨coefficient, grid⟩ := by
        rw [refine, point]
        rfl
      rw [stopped]
      exact ⟨point, nothing⟩
  | succ steps ih =>
      rw [refine]
      cases found : gridPoint? mantissa exponent grid with
      | some coefficient => exact ⟨found, nothing⟩
      | none =>
          -- One finer, what is coarser is this grid, without a point, or coarser than it.
          refine ih (by omega) fun coarser coefficient coarse rounds => ?_
          rcases Int.lt_or_eq_of_le (Int.le_of_sub_one_lt coarse) with above | same
          · exact nothing coarser coefficient above rounds
          · rw [← same] at rounds
            exact gridPoint?_ne_none positive rounds found

/-- In the range of doubles the estimate of the decimal logarithm is not too small. -/
theorem two_pow_le_ten_pow (bits : Int) (lowest : -1074 ≤ bits) (highest : bits ≤ 1024) :
    (2 : ℚ) ^ bits ≤ 10 ^ (bits * 30103 / 100000 + 1) := by
  have checked : (List.range 2099).all (fun number =>
      let bits : Int := number - 1074
      Nat.ble (2 ^ bits.toNat * 10 ^ (-(bits * 30103 / 100000 + 1)).toNat)
        (10 ^ (bits * 30103 / 100000 + 1).toNat * 2 ^ (-bits).toNat)) = true := by
    decide +kernel
  have inside : (bits + 1074).toNat ∈ List.range 2099 := List.mem_range.mpr (by omega)
  have found := List.all_eq_true.mp checked _ inside
  have same : ((bits + 1074).toNat : Int) - 1074 = bits := by omega
  simp only [same] at found
  have whole := Nat.le_of_ble_eq_true found
  generalize bits * 30103 / 100000 + 1 = digits at whole
  have scale : (0 : ℚ) < 2 ^ (-bits).toNat * 10 ^ (-digits).toNat := by positivity
  have two := @zpow_mul_pow_toNat 2 (by norm_num) bits
  have ten := @zpow_mul_pow_toNat 10 (by norm_num) digits
  rw [Nat.mul_comm (10 ^ _)] at whole
  rw [← mul_le_mul_iff_left₀ scale, ← mul_assoc, two, mul_left_comm, ten]
  exact_mod_cast whole

/-- The first grid is coarser than the double is large. -/
theorem binary_lt_coarsestGrid (lowest : -1074 ≤ exponent)
    (highest : (mantissa.log2 : Int) + 1 + exponent ≤ 1024) :
    binary mantissa exponent < 10 ^ coarsestGrid mantissa exponent := by
  have bits : (mantissa : ℚ) < 2 ^ ((mantissa.log2 : Int) + 1) := by
    exact_mod_cast (Nat.lt_log2_self : mantissa < 2 ^ (mantissa.log2 + 1))
  calc
    binary mantissa exponent
        < 2 ^ ((mantissa.log2 : Int) + 1) * 2 ^ exponent :=
          mul_lt_mul_of_pos_right bits (zpow_pos (by norm_num) _)
    _ = 2 ^ ((mantissa.log2 : Int) + 1 + exponent) := (zpow_add₀ (by norm_num) _ _).symm
    _ ≤ 10 ^ coarsestGrid mantissa exponent := two_pow_le_ten_pow _ (by omega) highest

/-- A point other than zero on a grid coarser still would be far above the interval. -/
theorem nothingCoarser_coarsestGrid (positive : 0 < mantissa) (lowest : -1074 ≤ exponent)
    (highest : (mantissa.log2 : Int) + 1 + exponent ≤ 1024) :
    NothingCoarser mantissa exponent (coarsestGrid mantissa exponent) := by
  intro coarser coefficient coarse rounds
  obtain ⟨lower, upper⟩ := rounds.bounds
  have small := binary_lt_coarsestGrid lowest highest
  have several : (1 : ℚ) ≤ coefficient := by
    have nonzero : (0 : ℚ) < coefficient := by
      refine (mul_pos_iff_of_pos_right (spacing_pos coarser)).mp ?_
      exact (lowerMidpoint_pos exponent positive).trans_le lower
    exact_mod_cast nonzero
  have double : upperMidpoint mantissa exponent ≤ 2 * binary mantissa exponent := by
    rw [binary_eq_quarters, upperMidpoint, ← mul_assoc]
    exact mul_le_mul_of_nonneg_right (by exact_mod_cast (by omega)) (le_of_lt (quarter_pos _))
  have power : (10 : ℚ) ^ coarsestGrid mantissa exponent * 10 ≤ 10 ^ coarser := by
    rw [← zpow_add_one₀ (by norm_num)]
    exact zpow_le_zpow_right₀ (by norm_num) coarse
  have point : (10 : ℚ) ^ coarser ≤ coefficient * 10 ^ coarser :=
    le_mul_of_one_le_left (le_of_lt (spacing_pos coarser)) several
  have spacing := spacing_pos (coarsestGrid mantissa exponent)
  linarith

end Refine

/-- A decimal is the shortest one of a double: it is read as this double and no other, and among the
decimals that are it has the fewest digits and, on its grid, is the nearest to the double. -/
structure IsShortest (mantissa : Nat) (exponent : Int) (decimal : Decimal) : Prop where
  rounds : Rounds mantissa exponent decimal.magnitude
  nearest : ∀ (other : Float) (magnitude : ℚ), magnitude? other = some magnitude →
    magnitude ≠ binary mantissa exponent →
      |decimal.magnitude - binary mantissa exponent| < |decimal.magnitude - magnitude| ∨
        |decimal.magnitude - binary mantissa exponent| = |decimal.magnitude - magnitude| ∧
          mantissa % 2 = 0
  coarsest : ∀ other : Decimal, Rounds mantissa exponent other.magnitude →
    other.exponent ≤ decimal.exponent
  fewest : ∀ other : Decimal, Rounds mantissa exponent other.magnitude →
    (Nat.toDigits 10 decimal.coefficient).length ≤ (Nat.toDigits 10 other.coefficient).length
  closest : ∀ other : Decimal, Rounds mantissa exponent other.magnitude →
    other.exponent = decimal.exponent → other ≠ decimal →
      |decimal.magnitude - binary mantissa exponent| <
          |other.magnitude - binary mantissa exponent| ∨
        |decimal.magnitude - binary mantissa exponent| =
            |other.magnitude - binary mantissa exponent| ∧ decimal.coefficient % 2 = 0

section Shortest

variable {mantissa : Nat} {exponent : Int} {decimal : Decimal}

theorem coefficient_pos_of_rounds (positive : 0 < mantissa)
    (rounds : Rounds mantissa exponent decimal.magnitude) : 0 < decimal.coefficient := by
  have above := (lowerMidpoint_pos exponent positive).trans_le rounds.bounds.1
  exact_mod_cast (mul_pos_iff_of_pos_right (spacing_pos decimal.exponent)).mp above

/-- With fewer digits a number of the interval would be below a power of ten that is in the interval
as well, and the coarsest grid would hold it. -/
theorem digits_le_of_coarsest (positive : 0 < mantissa)
    (rounds : Rounds mantissa exponent decimal.magnitude)
    (coarsest : ∀ other : Decimal, Rounds mantissa exponent other.magnitude →
      other.exponent ≤ decimal.exponent) {other : Decimal}
    (otherRounds : Rounds mantissa exponent other.magnitude) :
    (Nat.toDigits 10 decimal.coefficient).length ≤ (Nat.toDigits 10 other.coefficient).length := by
  have grids := coarsest other otherRounds
  have shown := Nat.length_toDigits_pos (b := 10) (n := other.coefficient)
  have above := (decimal.magnitude_bounds (coefficient_pos_of_rounds positive rounds)).1
  have below := (other.magnitude_bounds (coefficient_pos_of_rounds positive otherRounds)).2
  by_contra! fewer
  have order : (10 : ℚ) ^ other.point ≤ 10 ^ (decimal.point - 1) := by
    refine zpow_le_zpow_right₀ (by norm_num) ?_
    unfold Decimal.point
    omega
  have power : Rounds mantissa exponent (Decimal.magnitude ⟨1, decimal.point - 1⟩) := by
    rw [Decimal.magnitude, Nat.cast_one, one_mul]
    exact otherRounds.convex rounds (le_of_lt (below.trans_le order)) above
  have grid : decimal.point - 1 ≤ decimal.exponent := coarsest _ power
  unfold Decimal.point at grid
  omega

/-- A zero at the end would put the decimal on a coarser grid. -/
theorem IsShortest.coefficient_ne (found : IsShortest mantissa exponent decimal) :
    decimal.coefficient % 10 ≠ 0 := by
  intro zero
  obtain ⟨tenth, digits⟩ : ∃ tenth, decimal.coefficient = tenth * 10 :=
    ⟨_, (Nat.div_mul_cancel (Nat.dvd_of_mod_eq_zero zero)).symm⟩
  have same : decimal.magnitude = Decimal.magnitude ⟨tenth, decimal.exponent + 1⟩ := by
    rw [Decimal.magnitude, Decimal.magnitude, digits, zpow_add_one₀ (by norm_num)]
    push_cast
    ring
  have rounds := found.rounds
  rw [same] at rounds
  have coarser := found.coarsest _ rounds
  dsimp only at coarser
  omega

/-- What the search finds, if it finds nothing on the coarser grids, is the shortest decimal. -/
theorem isShortest_of_gridPoint? (representable : Representable mantissa exponent)
    (positive : 0 < mantissa)
    (found : gridPoint? mantissa exponent decimal.exponent = some decimal.coefficient)
    (nothing : NothingCoarser mantissa exponent decimal.exponent) :
    IsShortest mantissa exponent decimal := by
  have rounds : Rounds mantissa exponent decimal.magnitude := gridPoint?_rounds found
  have coarsest (other : Decimal) (otherRounds : Rounds mantissa exponent other.magnitude) :
      other.exponent ≤ decimal.exponent :=
    not_lt.mp fun coarse => nothing other.exponent other.coefficient coarse otherRounds
  refine ⟨rounds, fun _ _ => rounds.nearest representable positive, coarsest, fun _ => ?_, ?_⟩
  · exact digits_le_of_coarsest positive rounds coarsest
  · rintro ⟨coefficient, grid⟩ otherRounds same different
    obtain rfl : grid = decimal.exponent := same
    refine gridPoint?_preferred positive found otherRounds ?_
    rintro rfl
    exact different rfl

end Shortest

section Double

variable {number : Float} {sign : Sign} {mantissa : Nat} {exponent : Int} {positive : 0 < mantissa}

theorem gridPoint?_shortest
    (unpacked : number.toModel.unpack = .finite sign mantissa exponent positive) :
    gridPoint? mantissa exponent (shortest mantissa exponent).exponent =
        some (shortest mantissa exponent).coefficient ∧
      NothingCoarser mantissa exponent (shortest mantissa exponent).exponent := by
  have range : -1074 ≤ exponent ∧ (mantissa.log2 : Int) + 1 + exponent ≤ 1024 := by
    rcases normal_or_lowest unpacked with normal | ⟨short, lowest⟩
    · have bits := normal.log2_eq
      have highest := normal.highest
      exact ⟨normal.lowest, by omega⟩
    · have bits := (Nat.log2_lt (Nat.ne_of_gt positive)).mpr short
      omega
  refine refine_spec positive ?_ (nothingCoarser_coarsestGrid positive range.1 range.2)
  have estimate : coarsestGrid mantissa exponent =
      ((mantissa.log2 + 1 : Int) + exponent) * 30103 / 100000 + 1 := rfl
  omega

/-- The search finds the shortest decimal of a double. -/
theorem isShortest_shortest
    (unpacked : number.toModel.unpack = .finite sign mantissa exponent positive) :
    IsShortest mantissa exponent (shortest mantissa exponent) := by
  obtain ⟨found, nothing⟩ := gridPoint?_shortest unpacked
  exact isShortest_of_gridPoint? (representable_of_unpack unpacked) positive found nothing

end Double

end DateCalculator.Number
