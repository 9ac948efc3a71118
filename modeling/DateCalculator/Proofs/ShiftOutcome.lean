import DateCalculator.Arithmetic
import DateCalculator.Proofs.OffsetCarry

/-!
How a shift of a moment ends. A shift by a duration that can be written out and carried leads to a
moment or out of the calendar; no other shift ends so.
-/

namespace DateCalculator

namespace Numeral

theorem large_limit : 1000000000000000000000 ≤ Nat.pow 10 digitLimit := by decide +kernel

theorem fits_of_fitsDouble {value : Nat} (fits : Number.FitsDouble value) : Fits value := by
  have doubles : Nat.pow 2 1024 - Nat.pow 2 970 ≤ Nat.pow 10 digitLimit := by decide +kernel
  exact Nat.lt_of_lt_of_le fits doubles

end Numeral

namespace Duration

theorem printable_ofAmounts (negative : Bool) (amount : TimeUnit → Nat) :
    (ofAmounts negative amount).Printable ↔
      (∀ unit ∈ [TimeUnit.year, .month, .week, .day, .hour, .minute], Numeral.Fits (amount unit)) ∧
        Numeral.Fits (carriedSeconds amount) := by
  have seconds : (amount .second * 1000 + amount .millisecond) / 1000 = carriedSeconds amount := by
    unfold carriedSeconds
    omega
  simp only [Printable, secondsPart, magnitude_ofAmounts, seconds]

theorem printable_of_carriable {negative : Bool} {amount : TimeUnit → Nat}
    (carriable : Carriable amount) (years : Numeral.Fits (amount .year))
    (weeks : Numeral.Fits (amount .week)) (days : Numeral.Fits (amount .day)) :
    (ofAmounts negative amount).Printable := by
  obtain ⟨-, seconds, minutes, hours, months⟩ := carriable
  refine (printable_ofAmounts negative amount).mpr ⟨?_, Numeral.fits_of_fitsDouble seconds⟩
  intro unit member
  cases unit with
  | year => exact years
  | month => exact Numeral.fits_of_fitsDouble months
  | week => exact weeks
  | day => exact days
  | hour =>
      exact Nat.lt_of_le_of_lt (Nat.le_add_right _ _) (Numeral.fits_of_fitsDouble hours)
  | minute =>
      exact Nat.lt_of_le_of_lt (Nat.le_add_right _ _) (Numeral.fits_of_fitsDouble minutes)
  | second => simp at member
  | millisecond => simp at member

end Duration

namespace DateTime

theorem shift?_eq_none_of_months {moment : DateTime} {offset : Offset}
    (far : 120000 ≤ offset.totalMonths.natAbs) : moment.shift? offset = none := by
  have lower := moment.year_pos
  have upper := moment.year_le
  have positive := moment.date.month_pos
  have inside := moment.date.month_le
  have outside : ¬((1 ≤ (moment.date.addMonths offset.totalMonths).year ∧
      (moment.date.addMonths offset.totalMonths).year ≤ 9999) ∧
      moment.sinceMidnight < microsecondsPerDay) := by
    unfold Date.addMonths
    dsimp only
    omega
  rw [shift?, of?, dif_neg outside]
  rfl

theorem shift?_eq_none_of_exactPart {moment : DateTime} {offset : Offset}
    (far : 1000000000000000000 ≤ offset.exactPart.natAbs) : moment.shift? offset = none := by
  have first : earliest.instant = 86400000000 := by decide
  have last : latest.instant = 315537983999999999 := by decide
  cases shifted : moment.shift? offset with
  | none => rfl
  | some target =>
      obtain ⟨moved, -, found⟩ := Option.bind_eq_some_iff.mp shifted
      have same := instant_of_ofInstant? found
      have targetBounds := target.instant_bounds
      have movedBounds := moved.instant_bounds
      omega

/-- A duration without a text leads out of the calendar from everywhere, if it can be carried. -/
theorem shift?_eq_none_of_unprintable {negative : Bool} {amount : TimeUnit → Nat}
    (carriable : Duration.Carriable amount)
    (unprintable : ¬(Duration.ofAmounts negative amount).Printable) (moment : DateTime)
    (forward : Bool) :
    moment.shift? (if forward then .carried negative amount
      else (Offset.carried negative amount).negate) = none := by
  have months : (if forward then Offset.carried negative amount
      else (Offset.carried negative amount).negate).totalMonths.natAbs =
        Duration.totalMonths amount := by
    cases forward <;>
      simp [Offset.totalMonths_negate, Offset.totalMonths_carried]
  have exactPart : (if forward then Offset.carried negative amount
      else (Offset.carried negative amount).negate).exactPart.natAbs =
        1000 * Duration.exactMilliseconds amount := by
    cases forward <;>
      simp [Offset.exactPart_negate, Offset.exactPart_carried]
  have limit := Numeral.large_limit
  -- Too many years leave the calendar by the months, too many weeks or days by the exact part.
  by_cases years : Numeral.Fits (amount .year)
  · apply shift?_eq_none_of_exactPart
    rw [exactPart]
    unfold Duration.exactMilliseconds
    by_cases weeks : Numeral.Fits (amount .week)
    · have days : ¬Numeral.Fits (amount .day) := fun days =>
        unprintable (Duration.printable_of_carriable carriable years weeks days)
      have many := Nat.le_trans limit (Nat.le_of_not_lt days)
      omega
    · have many := Nat.le_trans limit (Nat.le_of_not_lt weeks)
      omega
  · apply shift?_eq_none_of_months
    rw [months]
    unfold Duration.totalMonths
    have many := Nat.le_trans limit (Nat.le_of_not_lt years)
    omega

end DateTime

/-- A duration that a shift can handle: it can be written out, and no amount that is carried is
beyond every double. -/
def Duration.Shiftable (span : Duration) : Prop :=
  span.Printable ∧ Duration.Carriable span.magnitude

namespace Arithmetic

theorem refuse_duration (span : Duration) (failure : Failure) :
    refuse [.duration span] failure = if span.Printable then failure else .numeralTooLong := by
  simp only [refuse, List.mem_singleton, forall_eq, Value.Printable]

theorem exists_offset (span : Duration) :
    ∃ negative, span = .ofAmounts negative span.magnitude ∧
      Offset.ofDuration? span =
        if Duration.Carriable span.magnitude then some (.carried negative span.magnitude)
        else none := by
  obtain ⟨negative, same⟩ := span.exists_ofAmounts
  refine ⟨negative, same, ?_⟩
  conv => lhs; rw [same]
  exact Offset.ofDuration?_ofAmounts negative span.magnitude

theorem shift_of_shiftable {span : Duration} (shiftable : span.Shiftable) (moment : DateTime)
    (forward : Bool) :
    (∃ shifted, shift moment forward span = .ok (.dateTime shifted)) ∨
      shift moment forward span = .error (.outsideCalendar moment forward span) := by
  obtain ⟨printable, carriable⟩ := shiftable
  obtain ⟨negative, -, offset⟩ := exists_offset span
  rw [if_pos carriable] at offset
  unfold shift
  rw [offset, refuse_duration, if_pos printable]
  dsimp only
  split
  · rename_i shifted _
    exact Or.inl ⟨shifted, rfl⟩
  · exact Or.inr rfl

theorem shift_of_not_shiftable {span : Duration} (unshiftable : ¬span.Shiftable)
    (moment : DateTime) (forward : Bool) :
    shift moment forward span = .error .offsetTooLarge ∨
      shift moment forward span = .error .numeralTooLong := by
  obtain ⟨negative, same, offset⟩ := exists_offset span
  by_cases carriable : Duration.Carriable span.magnitude
  · have unprintable : ¬span.Printable := fun printable => unshiftable ⟨printable, carriable⟩
    have outside := DateTime.shift?_eq_none_of_unprintable carriable (same ▸ unprintable) moment
      forward
    rw [if_pos carriable] at offset
    right
    unfold shift
    rw [offset, refuse_duration, if_neg unprintable]
    dsimp only
    rw [outside]
  · rw [if_neg carriable] at offset
    left
    unfold shift
    rw [offset]

end Arithmetic

end DateCalculator
