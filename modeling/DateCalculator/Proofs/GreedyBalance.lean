import DateCalculator.Proofs.SignedAmounts

/-!
The greedy balance of a length. The amounts have the length that was balanced, nothing stands in
units longer than the first one, and below every other unit there is less than one of it.
-/

namespace DateCalculator

theorem signed_natAbs (total : Int) : signed (total < 0) total.natAbs = total := by
  by_cases negative : total < 0
  · simp only [signed, negative, decide_true, if_true]
    omega
  · simp only [signed, negative, decide_false, Bool.false_eq_true, if_false]
    omega

namespace TimeUnit

theorem eq_of_length_eq {unit other : TimeUnit} (same : unit.length = other.length) :
    unit = other := by
  cases unit <;> cases other <;> first | rfl | contradiction

theorem length_longer (unit other : TimeUnit) :
    (unit.longer other).length = max unit.length other.length := by
  unfold longer
  split <;> omega

theorem length_shorter (unit other : TimeUnit) :
    (unit.shorter other).length = min unit.length other.length := by
  unfold shorter
  split <;> omega

/-- Every unit of the list is longer than all those behind it. -/
def Descending (units : List TimeUnit) : Prop :=
  units.Pairwise fun unit later => later.length < unit.length

def above (unit : TimeUnit) : List TimeUnit := all.filter fun other => unit.length < other.length

def below (unit : TimeUnit) : List TimeUnit := all.filter fun other => other.length < unit.length

theorem mem_above {unit other : TimeUnit} : other ∈ unit.above ↔ unit.length < other.length := by
  simp [above, mem_all]

theorem all_eq (unit : TimeUnit) : all = unit.above ++ unit :: unit.below := by
  cases unit <;> rfl

theorem downFrom_eq (unit : TimeUnit) : unit.downFrom = unit :: unit.below := by
  cases unit <;> rfl

theorem descending_downFrom (unit : TimeUnit) : Descending unit.downFrom := by
  cases unit <;> simp [Descending, downFrom, all, length]

theorem mem_downFrom {largest unit : TimeUnit} :
    unit ∈ largest.downFrom ↔ unit.length ≤ largest.length := by
  cases largest <;> cases unit <;> decide

theorem filter_downFrom {largest unit : TimeUnit} (inside : unit.length ≤ largest.length) :
    (largest.downFrom.filter fun other => other.length < unit.length) = unit.below := by
  cases largest <;> cases unit <;> first | rfl | contradiction

end TimeUnit

namespace Duration

open TimeUnit

/-- The length of the amounts in some of the units. -/
def lengthOver (units : List TimeUnit) (amount : TimeUnit → Nat) : Nat :=
  units.foldr (fun unit total => amount unit * unit.length + total) 0

section LengthOver

variable {units : List TimeUnit} {amount other : TimeUnit → Nat}

theorem lengthOver_cons (unit : TimeUnit) (units : List TimeUnit) (amount : TimeUnit → Nat) :
    lengthOver (unit :: units) amount = amount unit * unit.length + lengthOver units amount := rfl

theorem lengthOver_append (units others : List TimeUnit) (amount : TimeUnit → Nat) :
    lengthOver (units ++ others) amount = lengthOver units amount + lengthOver others amount := by
  induction units with
  | nil => exact (Nat.zero_add _).symm
  | cons unit units ih => rw [List.cons_append, lengthOver_cons, lengthOver_cons, ih, Nat.add_assoc]

theorem lengthOver_congr (same : ∀ unit ∈ units, amount unit = other unit) :
    lengthOver units amount = lengthOver units other := by
  induction units with
  | nil => rfl
  | cons unit units ih =>
      rw [lengthOver_cons, lengthOver_cons, same unit List.mem_cons_self,
        ih fun later member => same later (List.mem_cons_of_mem unit member)]

theorem lengthOver_eq_zero (zero : ∀ unit ∈ units, amount unit = 0) :
    lengthOver units amount = 0 := by
  induction units with
  | nil => rfl
  | cons unit units ih =>
      rw [lengthOver_cons, zero unit List.mem_cons_self,
        ih fun later member => zero later (List.mem_cons_of_mem unit member), Nat.zero_mul]

theorem amount_mul_length_le_lengthOver {unit : TimeUnit} (member : unit ∈ units)
    (amount : TimeUnit → Nat) :
    amount unit * unit.length ≤ lengthOver units amount := by
  induction units with
  | nil => contradiction
  | cons first rest ih =>
      rw [lengthOver_cons]
      rcases List.mem_cons.mp member with rfl | later
      · omega
      · have inside := ih later
        omega

/-- A length in three parts: in longer units, in the unit itself and in shorter ones. -/
theorem lengthOfAmounts_split (amount : TimeUnit → Nat) (unit : TimeUnit) :
    lengthOfAmounts amount = lengthOver unit.above amount +
      (amount unit * unit.length + lengthOver unit.below amount) := by
  rw [← lengthOver_cons, ← lengthOver_append, ← unit.all_eq]
  rfl

end LengthOver

section Greedy

variable {first : TimeUnit} {rest units : List TimeUnit}

theorem greedy_first (first : TimeUnit) (rest : List TimeUnit) (remaining : Nat) :
    greedy (first :: rest) remaining first = remaining / first.length := if_pos rfl

theorem greedy_of_not_mem {unit : TimeUnit} (missing : unit ∉ units) (remaining : Nat) :
    greedy units remaining unit = 0 := by
  induction units generalizing remaining with
  | nil => rfl
  | cons first rest ih =>
      obtain ⟨other, missing⟩ := not_or.mp (mt List.mem_cons.mpr missing)
      rw [greedy, if_neg other]
      exact ih missing _

/-- The units behind the first one share out what it leaves. -/
theorem lengthOver_rest (descending : Descending (first :: rest)) {chosen : List TimeUnit}
    (inside : ∀ unit ∈ chosen, unit ∈ rest) (remaining : Nat) :
    lengthOver chosen (greedy (first :: rest) remaining) =
      lengthOver chosen (greedy rest (remaining % first.length)) := by
  refine lengthOver_congr fun unit member => if_neg ?_
  rintro rfl
  exact Nat.lt_irrefl _ (List.rel_of_pairwise_cons descending (inside unit member))

theorem lengthOver_greedy_cons (descending : Descending (first :: rest)) (remaining : Nat) :
    lengthOver (first :: rest) (greedy (first :: rest) remaining) =
      remaining / first.length * first.length +
        lengthOver rest (greedy rest (remaining % first.length)) := by
  rw [lengthOver_cons, greedy_first, lengthOver_rest descending fun _ => id]

theorem lengthOver_greedy_le (descending : Descending units) (remaining : Nat) :
    lengthOver units (greedy units remaining) ≤ remaining := by
  induction units generalizing remaining with
  | nil => exact Nat.zero_le remaining
  | cons first rest ih =>
      have later := ih (List.Pairwise.of_cons descending) (remaining % first.length)
      have parts := Nat.div_add_mod' remaining first.length
      rw [lengthOver_greedy_cons descending]
      omega

/-- Nothing is left over once there are milliseconds. -/
theorem lengthOver_greedy (descending : Descending units) (milliseconds : .millisecond ∈ units)
    (remaining : Nat) : lengthOver units (greedy units remaining) = remaining := by
  induction units generalizing remaining with
  | nil => contradiction
  | cons first rest ih =>
      have descends := List.Pairwise.of_cons descending
      have parts := Nat.div_add_mod' remaining first.length
      rw [lengthOver_greedy_cons descending]
      rcases List.mem_cons.mp milliseconds with same | later
      · subst first
        have nothing := lengthOver_greedy_le descends (remaining % TimeUnit.millisecond.length)
        have unit : TimeUnit.millisecond.length = 1 := rfl
        rw [unit, Nat.mod_one] at nothing parts
        rw [unit, Nat.mod_one]
        omega
      · rw [ih descends later]
        exact parts

theorem lengthOver_filter_greedy (descending : Descending units) {unit : TimeUnit}
    (member : unit ∈ units) (remaining : Nat) :
    lengthOver (units.filter fun other => other.length < unit.length) (greedy units remaining) <
      unit.length := by
  induction units generalizing remaining with
  | nil => contradiction
  | cons first rest ih =>
      have descends := List.Pairwise.of_cons descending
      have longest : unit.length ≤ first.length := by
        rcases List.mem_cons.mp member with rfl | later
        · exact Nat.le_refl _
        · exact Nat.le_of_lt (List.rel_of_pairwise_cons descending later)
      rw [List.filter_cons_of_neg (by simpa using longest),
        lengthOver_rest descending fun _ member => (List.mem_filter.mp member).1]
      rcases List.mem_cons.mp member with same | later
      · subst unit
        have every : (rest.filter fun other => other.length < first.length) = rest := by
          refine List.filter_eq_self.mpr fun other among => ?_
          simpa using List.rel_of_pairwise_cons descending among
        have short := lengthOver_greedy_le descends (remaining % first.length)
        have bound := Nat.mod_lt remaining first.length_pos
        rw [every]
        omega
      · exact ih descends later _

end Greedy

/-- The amounts stand in units up to this one, and below any of these there is less than one. -/
structure Balanced (largest : TimeUnit) (span : Duration) : Prop where
  above : ∀ unit : TimeUnit, largest.length < unit.length → span.get unit = 0
  below : ∀ unit : TimeUnit, unit.length ≤ largest.length →
    lengthOver unit.below span.magnitude < unit.length

section Balanced

variable (total : Int) (largest : TimeUnit)

theorem magnitude_ofMilliseconds (unit : TimeUnit) :
    (ofMilliseconds total largest).magnitude unit = greedy largest.downFrom total.natAbs unit :=
  magnitude_ofAmounts _ _ unit

theorem lengthOfAmounts_greedy (remaining : Nat) :
    lengthOfAmounts (greedy largest.downFrom remaining) = remaining := by
  have nothing : lengthOver largest.above (greedy largest.downFrom remaining) = 0 := by
    refine lengthOver_eq_zero fun unit member => greedy_of_not_mem (fun inside => ?_) remaining
    exact Nat.not_le_of_lt (mem_above.mp member) (mem_downFrom.mp inside)
  rw [lengthOfAmounts_split _ largest, nothing, ← lengthOver_cons, ← downFrom_eq, Nat.zero_add]
  exact lengthOver_greedy largest.descending_downFrom (mem_downFrom.mpr largest.length_pos) remaining

@[simp] theorem totalMilliseconds_ofMilliseconds :
    (ofMilliseconds total largest).totalMilliseconds = total := by
  rw [ofMilliseconds, totalMilliseconds_ofAmounts, lengthOfAmounts_greedy, signed_natAbs]

/-- The opposite length is balanced into the opposite amounts. -/
theorem get_ofMilliseconds_neg (unit : TimeUnit) :
    (ofMilliseconds (-total) largest).get unit = -(ofMilliseconds total largest).get unit := by
  rw [ofMilliseconds, ofMilliseconds, get_ofAmounts, get_ofAmounts, Int.natAbs_neg]
  by_cases zero : total = 0
  · have inside := amount_le_lengthOfAmounts (greedy largest.downFrom total.natAbs) unit
    rw [lengthOfAmounts_greedy, zero] at inside
    rw [zero, Nat.le_zero.mp inside]
    rfl
  · have flipped : decide (-total < 0) = !decide (total < 0) := by
      by_cases negative : total < 0
      · simp only [negative, decide_true, Bool.not_true, decide_eq_false_iff_not]
        omega
      · simp only [negative, decide_false, Bool.not_false, decide_eq_true_eq]
        omega
    rw [flipped, signed_not]

theorem balanced_ofMilliseconds : Balanced largest (ofMilliseconds total largest) where
  above unit longer := by
    have missing : unit ∉ largest.downFrom := fun inside =>
      Nat.not_le_of_lt longer (mem_downFrom.mp inside)
    refine Int.natAbs_eq_zero.mp ?_
    rw [← magnitude, magnitude_ofMilliseconds, greedy_of_not_mem missing]
  below unit inside := by
    have short := lengthOver_filter_greedy largest.descending_downFrom (mem_downFrom.mpr inside)
      total.natAbs
    rw [filter_downFrom inside] at short
    rwa [funext (magnitude_ofMilliseconds total largest)]

end Balanced

/-- Of a shorter unit a balance has less than there is in a longer one. -/
theorem Balanced.magnitude_lt {largest : TimeUnit} {span : Duration}
    (balanced : Balanced largest span) (unit shorter : TimeUnit)
    (inside : unit.length ≤ largest.length) (member : shorter ∈ unit.below) {count : Nat}
    (ratio : unit.length = count * shorter.length) : span.magnitude shorter < count := by
  have amount := amount_mul_length_le_lengthOver member span.magnitude
  have short := balanced.below unit inside
  rw [ratio] at short
  exact Nat.lt_of_mul_lt_mul_right (Nat.lt_of_le_of_lt amount short)

/-- Whole days, and of each shorter unit less than there is in the next one. -/
structure DayBalanced (span : Duration) : Prop where
  longer : ∀ unit : TimeUnit, TimeUnit.day.length < unit.length → span.get unit = 0
  hours : span.magnitude .hour < 24
  minutes : span.magnitude .minute < 60
  seconds : span.magnitude .second < 60
  milliseconds : span.magnitude .millisecond < 1000

theorem dayBalanced_of_balanced {span : Duration} (balanced : Balanced .day span) :
    span.DayBalanced where
  longer := balanced.above
  hours := balanced.magnitude_lt .day .hour (by decide) (by decide) rfl
  minutes := balanced.magnitude_lt .hour .minute (by decide) (by decide) rfl
  seconds := balanced.magnitude_lt .minute .second (by decide) (by decide) rfl
  milliseconds := balanced.magnitude_lt .second .millisecond (by decide) (by decide) rfl

section LargestUnit

variable {span : Duration} {unit : TimeUnit}

theorem largestUnit_eq (shown : span.get unit ≠ 0)
    (longer : ∀ other, unit.length < other.length → span.get other = 0) :
    span.largestUnit = unit := by
  have absent : (unit.above.find? fun other => span.get other ≠ 0) = none := by
    refine List.find?_eq_none.mpr fun other member => ?_
    simpa using longer other (mem_above.mp member)
  rw [largestUnit, unit.all_eq, List.find?_append, absent, Option.none_or,
    List.find?_cons_of_pos (by simpa using shown), Option.getD_some]

/-- A duration is zero or at least as long as its largest unit. -/
theorem length_largestUnit_le (span : Duration) :
    span.totalMilliseconds = 0 ∧ span.largestUnit = .millisecond ∨
      span.largestUnit.length ≤ span.totalMilliseconds.natAbs := by
  cases found : TimeUnit.all.find? fun unit => span.get unit ≠ 0 with
  | none =>
      refine .inl ⟨?_, by rw [largestUnit, found, Option.getD_none]⟩
      have zero (unit : TimeUnit) : span.magnitude unit = 0 :=
        Int.natAbs_eq_zero.mpr (by simpa using List.find?_eq_none.mp found unit unit.mem_all)
      rw [← Int.natAbs_eq_zero, natAbs_totalMilliseconds]
      exact lengthOver_eq_zero fun unit _ => zero unit
  | some unit =>
      refine .inr ?_
      have shown : 0 < span.magnitude unit :=
        Int.natAbs_pos.mpr (by simpa using List.find?_some found)
      have least := Nat.le_mul_of_pos_left unit.length shown
      rw [largestUnit, found, Option.getD_some, natAbs_totalMilliseconds,
        lengthOfAmounts_split _ unit]
      omega

/-- A balance uses the unit that it starts with, unless the length is too short for it. -/
theorem Balanced.largestUnit_eq (balanced : Balanced unit span)
    (long : unit.length ≤ span.totalMilliseconds.natAbs) : span.largestUnit = unit := by
  refine Duration.largestUnit_eq (fun zero => ?_) balanced.above
  have longer : lengthOver unit.above span.magnitude = 0 :=
    lengthOver_eq_zero fun other member =>
      Int.natAbs_eq_zero.mpr (balanced.above other (mem_above.mp member))
  have short := balanced.below unit (Nat.le_refl _)
  rw [natAbs_totalMilliseconds, lengthOfAmounts_split _ unit, longer, magnitude, zero] at long
  simp only [Int.natAbs_zero, Nat.zero_mul, Nat.zero_add] at long
  omega

end LargestUnit

end Duration

end DateCalculator
