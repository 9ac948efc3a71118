import DateCalculator.Proofs.DurationRounding

/-!
The greedy balance is the only one. Where the units behind a unit hold less than one of it, its
amount is a quotient and what they hold is the remainder. So the length decides about all amounts,
and a balance of a length is known by what it leaves below each unit.
-/

namespace DateCalculator.Duration

open TimeUnit

/-- The units behind each unit of the list hold less than one of it. -/
def Bounded (amount : TimeUnit → Nat) : List TimeUnit → Prop
  | [] => True
  | first :: rest => lengthOver rest amount < first.length ∧ Bounded amount rest

section Bounded

variable {amount : TimeUnit → Nat} {first : TimeUnit} {rest units : List TimeUnit}

theorem Bounded.div_eq (bounded : Bounded amount (first :: rest)) :
    lengthOver (first :: rest) amount / first.length = amount first := by
  rw [lengthOver_cons, Nat.mul_comm, Nat.mul_add_div first.length_pos, Nat.div_eq_of_lt bounded.1,
    Nat.add_zero]

theorem Bounded.mod_eq (bounded : Bounded amount (first :: rest)) :
    lengthOver (first :: rest) amount % first.length = lengthOver rest amount := by
  rw [lengthOver_cons, Nat.mul_add_mod', Nat.mod_eq_of_lt bounded.1]

/-- Bounded amounts are the greedy ones of their length. -/
theorem Bounded.greedy_eq (bounded : Bounded amount units) (descending : Descending units) :
    ∀ unit ∈ units, greedy units (lengthOver units amount) unit = amount unit := by
  induction units with
  | nil =>
      intro unit member
      contradiction
  | cons first rest ih =>
      intro unit member
      rcases List.mem_cons.mp member with same | later
      · rw [same, greedy_first, bounded.div_eq]
      · have shorter := List.rel_of_pairwise_cons descending later
        have other : unit ≠ first := by
          intro same
          rw [same] at shorter
          omega
        rw [greedy, if_neg other, bounded.mod_eq]
        exact ih bounded.2 (List.Pairwise.of_cons descending) unit later

theorem bounded_of_lengthOver_lt (descending : Descending units)
    (short : ∀ unit ∈ units,
      lengthOver (units.filter fun other => other.length < unit.length) amount < unit.length) :
    Bounded amount units := by
  induction units with
  | nil => trivial
  | cons first rest ih =>
      have shorter : ∀ unit ∈ rest, unit.length < first.length :=
        fun unit member => List.rel_of_pairwise_cons descending member
      constructor
      · have left := short first List.mem_cons_self
        rwa [List.filter_cons_of_neg (by simp),
          List.filter_eq_self.mpr (by simpa using shorter)] at left
      · refine ih (List.Pairwise.of_cons descending) fun unit member => ?_
        have left := short unit (List.mem_cons_of_mem first member)
        have longer := shorter unit member
        rwa [List.filter_cons_of_neg (by simp; omega)] at left

end Bounded

section Balanced

variable {largest : TimeUnit} {span : Duration}

theorem Balanced.bounded (balanced : Balanced largest span) :
    Bounded span.magnitude largest.downFrom := by
  refine bounded_of_lengthOver_lt largest.descending_downFrom fun unit member => ?_
  have inside := mem_downFrom.mp member
  rw [filter_downFrom inside]
  exact balanced.below unit inside

theorem Balanced.lengthOver_downFrom (balanced : Balanced largest span) :
    lengthOver largest.downFrom span.magnitude = span.totalMilliseconds.natAbs := by
  have nothing : lengthOver largest.above span.magnitude = 0 := by
    refine lengthOver_eq_zero fun unit member => Int.natAbs_eq_zero.mpr ?_
    exact balanced.above unit (mem_above.mp member)
  rw [natAbs_totalMilliseconds, lengthOfAmounts_split _ largest, nothing, downFrom_eq,
    lengthOver_cons, Nat.zero_add]

theorem Balanced.magnitude_eq (balanced : Balanced largest span) (unit : TimeUnit) :
    span.magnitude unit = greedy largest.downFrom span.totalMilliseconds.natAbs unit := by
  by_cases inside : unit ∈ largest.downFrom
  · rw [← balanced.lengthOver_downFrom,
      balanced.bounded.greedy_eq largest.descending_downFrom unit inside]
  · have longer : largest.length < unit.length := by
      rw [mem_downFrom] at inside
      omega
    rw [greedy_of_not_mem inside, magnitude, balanced.above unit longer]
    rfl

/-- A balance is decided by the length and the unit it starts with. -/
theorem Balanced.eq_ofMilliseconds (balanced : Balanced largest span) :
    span = ofMilliseconds span.totalMilliseconds largest := by
  refine eq_of_get fun unit => ?_
  rw [ofMilliseconds, get_ofAmounts, ← balanced.magnitude_eq, get_eq_signed, sign_eq]
  simp only [Int.sign_neg_iff]

end Balanced

/-- An amount that is shown has the sign of the duration. -/
theorem sign_get (span : Duration) (unit : TimeUnit) :
    span.get unit = 0 ∨ (span.get unit).sign = span.sign := by
  by_cases zero : span.magnitude unit = 0
  · exact .inl (Int.natAbs_eq_zero.mp zero)
  · right
    have positive : lengthOfAmounts span.magnitude ≠ 0 := by
      have bound := amount_le_lengthOfAmounts span.magnitude unit
      omega
    obtain ⟨negative, same⟩ := span.exists_ofAmounts
    have total := congrArg totalMilliseconds same
    rw [totalMilliseconds_ofAmounts] at total
    have amount := congrArg (fun other => other.get unit) same
    simp only [get_ofAmounts] at amount
    rw [sign_eq, total, amount, sign_signed negative zero, sign_signed negative positive]

/-- The balance of a length from a unit down: the amounts have the length and its sign, nothing
stands in longer units, and below each unit there is less than one of it. -/
structure Represents (total : Int) (largest : TimeUnit) (span : Duration) : Prop
    extends Balanced largest span where
  length : span.totalMilliseconds = total
  signs : ∀ unit, span.get unit = 0 ∨ (span.get unit).sign = total.sign

theorem represents_iff (total : Int) (largest : TimeUnit) (span : Duration) :
    Represents total largest span ↔ span = ofMilliseconds total largest := by
  constructor
  · intro represents
    rw [← represents.length]
    exact represents.toBalanced.eq_ofMilliseconds
  · intro same
    subst same
    refine ⟨balanced_ofMilliseconds total largest, totalMilliseconds_ofMilliseconds total largest,
      fun unit => ?_⟩
    have signs := (ofMilliseconds total largest).sign_get unit
    rwa [sign_eq, totalMilliseconds_ofMilliseconds] at signs

/-- The balance of a length has exactly these properties, and the opposite length is balanced into
the opposite amounts. A duration has the sign of its length, and it is at least as long as its
largest unit unless it has no amounts at all. -/
theorem ofMilliseconds_represents (total : Int) (largest : TimeUnit) :
    (∀ span : Duration, Represents total largest span ↔ span = ofMilliseconds total largest) ∧
    ofMilliseconds (-total) largest = (ofMilliseconds total largest).opposite ∧
    ∀ span : Duration, span.sign = span.totalMilliseconds.sign ∧
      ((∀ unit, span.get unit = 0) ∨
        span.largestUnit.length ≤ span.totalMilliseconds.natAbs) := by
  refine ⟨represents_iff total largest, ofMilliseconds_neg total largest,
    fun span => ⟨span.sign_eq, ?_⟩⟩
  rcases span.length_largestUnit_le with ⟨zero, -⟩ | long
  · left
    intro unit
    have short := amount_le_lengthOfAmounts span.magnitude unit
    rw [← natAbs_totalMilliseconds, zero] at short
    exact Int.natAbs_eq_zero.mp (Nat.le_zero.mp short)
  · exact .inr long

end DateCalculator.Duration
