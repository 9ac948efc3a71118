import DateCalculator.Duration.Printer

/-!
A duration as one sign and eight magnitudes. Totals and comparisons of durations become questions
about natural numbers in this form.
-/

namespace DateCalculator

def signed (negative : Bool) (magnitude : Nat) : Int :=
  if negative then -(magnitude : Int) else magnitude

section Signed

variable (negative : Bool) (first second group : Nat)

@[simp] theorem natAbs_signed : (signed negative first).natAbs = first := by
  cases negative <;> simp [signed]

theorem signed_not : signed (!negative) first = -signed negative first := by
  cases negative <;> simp [signed]

theorem signed_add : signed negative first + signed negative second =
    signed negative (first + second) := by
  cases negative <;> simp only [signed, Bool.false_eq_true, if_false, if_true] <;> omega

theorem signed_mul : signed negative first * group = signed negative (first * group) := by
  cases negative with
  | false => exact (Int.natCast_mul first group).symm
  | true =>
      simp only [signed, if_true]
      rw [Int.neg_mul, Int.natCast_mul]

theorem mul_signed : (group : Int) * signed negative first = signed negative (group * first) := by
  rw [Int.mul_comm, signed_mul, Nat.mul_comm]

theorem tdiv_signed : (signed negative first).tdiv group = signed negative (first / group) := by
  cases negative with
  | false => exact (Int.ofNat_tdiv first group).symm
  | true =>
      simp only [signed, if_true]
      rw [Int.neg_tdiv, Int.ofNat_tdiv]

theorem tmod_signed : (signed negative first).tmod group = signed negative (first % group) := by
  cases negative with
  | false => exact (Int.ofNat_tmod first group).symm
  | true =>
      simp only [signed, if_true]
      rw [Int.neg_tmod, Int.ofNat_tmod]

end Signed

namespace Duration

variable (negative : Bool) (amount : TimeUnit → Nat)

@[simp] theorem get_ofAmounts (unit : TimeUnit) :
    (ofAmounts negative amount).get unit = signed negative (amount unit) :=
  Fields.get_tabulate _ unit

@[simp] theorem magnitude_ofAmounts (unit : TimeUnit) :
    (ofAmounts negative amount).magnitude unit = amount unit := by
  rw [magnitude, get_ofAmounts, natAbs_signed]

theorem eq_of_get {first second : Duration} (same : ∀ unit, first.get unit = second.get unit) :
    first = second := by
  have years := same .year
  have months := same .month
  have weeks := same .week
  have days := same .day
  have hours := same .hour
  have minutes := same .minute
  have seconds := same .second
  have milliseconds := same .millisecond
  obtain ⟨⟨_, _, _, _, _, _, _, _⟩, _⟩ := first
  obtain ⟨⟨_, _, _, _, _, _, _, _⟩, _⟩ := second
  simp_all only [get, Fields.get]

/-- Every duration is the amounts that it shows under the sign that they share. -/
theorem exists_ofAmounts (span : Duration) :
    ∃ negative, span = ofAmounts negative span.magnitude := by
  rcases span.oneSign with positive | negative
  · refine ⟨false, eq_of_get fun unit => ?_⟩
    have bound : 0 ≤ span.get unit := positive unit unit.mem_all
    rw [get_ofAmounts, signed, magnitude]
    exact (Int.natAbs_of_nonneg bound).symm
  · refine ⟨true, eq_of_get fun unit => ?_⟩
    have bound : span.get unit ≤ 0 := negative unit unit.mem_all
    rw [get_ofAmounts, signed, magnitude]
    exact Int.eq_neg_comm.mp (Int.ofNat_natAbs_of_nonpos bound)

def lengthOfAmounts (amount : TimeUnit → Nat) : Nat :=
  TimeUnit.all.foldr (fun unit total => amount unit * unit.length + total) 0

theorem lengthOfAmounts_eq :
    lengthOfAmounts amount =
      amount .year * 31536000000 + (amount .month * 2592000000 + (amount .week * 604800000 +
        (amount .day * 86400000 + (amount .hour * 3600000 + (amount .minute * 60000 +
          (amount .second * 1000 + (amount .millisecond * 1 + 0))))))) := by
  -- Unfolding the whole sum at once would make the kernel compute with the lengths.
  have year : TimeUnit.length .year = 31536000000 := rfl
  have month : TimeUnit.length .month = 2592000000 := rfl
  have week : TimeUnit.length .week = 604800000 := rfl
  have day : TimeUnit.length .day = 86400000 := rfl
  have hour : TimeUnit.length .hour = 3600000 := rfl
  have minute : TimeUnit.length .minute = 60000 := rfl
  have second : TimeUnit.length .second = 1000 := rfl
  have millisecond : TimeUnit.length .millisecond = 1 := rfl
  unfold lengthOfAmounts TimeUnit.all
  repeat rw [List.foldr_cons]
  rw [List.foldr_nil, year, month, week, day, hour, minute, second, millisecond]

theorem totalMilliseconds_eq (span : Duration) :
    span.totalMilliseconds =
      span.get .year * 31536000000 + (span.get .month * 2592000000 + (span.get .week * 604800000 +
        (span.get .day * 86400000 + (span.get .hour * 3600000 + (span.get .minute * 60000 +
          (span.get .second * 1000 + (span.get .millisecond * 1 + 0))))))) := by
  unfold totalMilliseconds TimeUnit.all
  repeat rw [List.foldr_cons]
  rfl

theorem totalMilliseconds_ofAmounts :
    (ofAmounts negative amount).totalMilliseconds = signed negative (lengthOfAmounts amount) := by
  have general (units : List TimeUnit) :
      units.foldr (fun unit total => (ofAmounts negative amount).get unit * unit.length + total) 0 =
        signed negative (units.foldr (fun unit total => amount unit * unit.length + total) 0) := by
    induction units with
    | nil => cases negative <;> rfl
    | cons unit units ih =>
        rw [List.foldr_cons, List.foldr_cons, ih, get_ofAmounts, signed_mul, signed_add]
  exact general TimeUnit.all

theorem natAbs_totalMilliseconds (span : Duration) :
    span.totalMilliseconds.natAbs = lengthOfAmounts span.magnitude := by
  obtain ⟨negative, same⟩ := span.exists_ofAmounts
  have length := congrArg totalMilliseconds same
  rw [totalMilliseconds_ofAmounts] at length
  rw [length, natAbs_signed]

theorem amount_le_lengthOfAmounts (amount : TimeUnit → Nat) (unit : TimeUnit) :
    amount unit ≤ lengthOfAmounts amount := by
  rw [lengthOfAmounts_eq]
  cases unit <;> omega

/-- Where the length in milliseconds can be written out, so can the duration. -/
theorem printable_of_fits {span : Duration}
    (fits : Numeral.Fits span.totalMilliseconds.natAbs) : span.Printable := by
  rw [natAbs_totalMilliseconds] at fits
  refine ⟨fun unit _ => Nat.lt_of_le_of_lt (amount_le_lengthOfAmounts span.magnitude unit) fits,
    Nat.lt_of_le_of_lt ?_ fits⟩
  clear fits
  rw [lengthOfAmounts_eq, secondsPart]
  omega

theorem sign_signed {magnitude : Nat} (nonzero : magnitude ≠ 0) :
    (signed negative magnitude).sign = if negative then -1 else 1 := by
  cases negative with
  | false => exact Int.sign_eq_one_of_pos (Int.natCast_pos.mpr (Nat.pos_of_ne_zero nonzero))
  | true =>
      refine Int.sign_eq_neg_one_of_neg (Int.neg_neg_of_pos ?_)
      exact Int.natCast_pos.mpr (Nat.pos_of_ne_zero nonzero)

/-- The sign is that of the length. -/
theorem sign_eq (span : Duration) : span.sign = span.totalMilliseconds.sign := by
  obtain ⟨negative, same⟩ := span.exists_ofAmounts
  rw [same, totalMilliseconds_ofAmounts, sign]
  generalize span.magnitude = amount
  cases largest : TimeUnit.all.find? fun unit => (ofAmounts negative amount).get unit ≠ 0 with
  | none =>
      have zero (unit : TimeUnit) : amount unit = 0 := by
        have absent := List.find?_eq_none.mp largest unit unit.mem_all
        rw [get_ofAmounts] at absent
        rw [← natAbs_signed negative (amount unit)]
        exact Int.natAbs_eq_zero.mpr (by simpa using absent)
      have length : lengthOfAmounts amount = 0 := by
        rw [lengthOfAmounts_eq]
        simp only [zero]
      rw [get_ofAmounts, zero, length]
  | some unit =>
      have shown := List.find?_some largest
      have nonzero : amount unit ≠ 0 := by
        rw [get_ofAmounts] at shown
        intro zero
        rw [zero] at shown
        cases negative <;> simp [signed] at shown
      have positive : lengthOfAmounts amount ≠ 0 := by
        have bound := amount_le_lengthOfAmounts amount unit
        omega
      rw [largestUnit, largest, Option.getD_some, get_ofAmounts, sign_signed negative nonzero,
        sign_signed negative positive]

theorem sign_eq_zero_iff {span : Duration} :
    span.sign = 0 ↔ lengthOfAmounts span.magnitude = 0 := by
  rw [sign_eq, Int.sign_eq_zero_iff_zero, ← Int.natAbs_eq_zero, natAbs_totalMilliseconds]

/-- Every duration is the amounts that it shows under its sign. -/
theorem get_eq_signed (span : Duration) (unit : TimeUnit) :
    span.get unit = signed (span.sign < 0) (span.magnitude unit) := by
  obtain ⟨negative, same⟩ := span.exists_ofAmounts
  have length := congrArg totalMilliseconds same
  rw [totalMilliseconds_ofAmounts] at length
  rw [sign_eq, length]
  conv => lhs; rw [same, get_ofAmounts]
  by_cases zero : span.magnitude unit = 0
  · rw [zero]
    cases negative <;> simp [signed]
  · have positive : lengthOfAmounts span.magnitude ≠ 0 := by
      have bound := amount_le_lengthOfAmounts span.magnitude unit
      omega
    rw [sign_signed negative positive]
    cases negative <;> rfl

end Duration

end DateCalculator
