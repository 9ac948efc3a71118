import DateCalculator.Duration.Offset
import DateCalculator.Proofs.CalendarRange
import DateCalculator.Proofs.SignedAmounts
import Mathlib.Logic.Basic

/-!
Offsets in terms of the amounts of a duration. Carrying succeeds exactly if no carried amount is
beyond every double, and it changes neither the months nor the exact length.
-/

namespace DateCalculator

namespace Duration

variable (amount : TimeUnit → Nat)

def carriedSeconds : Nat := amount .second + amount .millisecond / 1000

def carriedMinutes : Nat := amount .minute + carriedSeconds amount / 60

def carriedHours : Nat := amount .hour + carriedMinutes amount / 60

/-- Each amount from which something may be carried upward, together with what is carried into it,
stays below the whole numbers that no double comes near. -/
abbrev Carriable : Prop :=
  Number.FitsDouble (1000 * amount .millisecond : Nat) ∧ Number.FitsDouble (carriedSeconds amount) ∧
    Number.FitsDouble (carriedMinutes amount) ∧ Number.FitsDouble (carriedHours amount) ∧
    Number.FitsDouble (amount .month)

def totalMonths : Nat := 12 * amount .year + amount .month

def exactMilliseconds : Nat :=
  (((7 * amount .week + amount .day) * 24 + amount .hour) * 60 + amount .minute) * 60000 +
    amount .second * 1000 + amount .millisecond

end Duration

namespace Offset

open Duration

theorem fitsDouble_signed (negative : Bool) (value : Nat) :
    Number.FitsDouble (signed negative value) ↔ Number.FitsDouble value := by
  simp only [Number.FitsDouble, natAbs_signed, Int.natAbs_natCast]

theorem bind_carry? {Result : Type} (negative : Bool) (value group : Nat)
    (next : Int × Int → Option Result) :
    (carry? (signed negative value) group).bind next =
      if Number.FitsDouble value then
        next (signed negative (value / group), signed negative (value % group))
      else none := by
  rw [carry?, tdiv_signed, tmod_signed]
  by_cases fits : Number.FitsDouble value
  · rw [if_pos ((fitsDouble_signed negative value).mpr fits), if_pos fits, Option.bind_some]
  · rw [if_neg (fun large => fits ((fitsDouble_signed negative value).mp large)), if_neg fits,
      Option.bind_none]

def carried (negative : Bool) (amount : TimeUnit → Nat) : Offset where
  years := signed negative (amount .year + amount .month / 12)
  months := signed negative (amount .month % 12)
  days := signed negative (amount .day + 7 * amount .week + carriedHours amount / 24)
  hours := signed negative (carriedHours amount % 24)
  minutes := signed negative (carriedMinutes amount % 60)
  seconds := signed negative (carriedSeconds amount % 60)
  microseconds := signed negative (1000 * amount .millisecond % 1000000)

theorem ofDuration?_ofAmounts (negative : Bool) (amount : TimeUnit → Nat) :
    ofDuration? (.ofAmounts negative amount) =
      if Carriable amount then some (carried negative amount) else none := by
  have milliseconds : 1000 * (ofAmounts negative amount).milliseconds =
      signed negative (1000 * amount .millisecond) := mul_signed negative _ 1000
  have seconds : (ofAmounts negative amount).seconds = signed negative (amount .second) := rfl
  have minutes : (ofAmounts negative amount).minutes = signed negative (amount .minute) := rfl
  have hours : (ofAmounts negative amount).hours = signed negative (amount .hour) := rfl
  have days : (ofAmounts negative amount).days = signed negative (amount .day) := rfl
  have weeks : 7 * (ofAmounts negative amount).weeks = signed negative (7 * amount .week) :=
    mul_signed negative _ 7
  have months : (ofAmounts negative amount).months = signed negative (amount .month) := rfl
  have years : (ofAmounts negative amount).years = signed negative (amount .year) := rfl
  have whole : 1000 * amount .millisecond / 1000000 = amount .millisecond / 1000 := by omega
  unfold ofDuration?
  rw [milliseconds, seconds, minutes, hours, days, weeks, months, years]
  simp only [Option.bind_eq_bind, bind_carry?, signed_add, whole]
  rw [ite_and, ite_and, ite_and, ite_and]
  rfl

theorem totalMonths_carried (negative : Bool) (amount : TimeUnit → Nat) :
    (carried negative amount).totalMonths = signed negative (Duration.totalMonths amount) := by
  unfold totalMonths Duration.totalMonths carried
  cases negative with
  | false =>
      simp only [signed, Bool.false_eq_true, if_false]
      omega
  | true =>
      simp only [signed, if_true]
      omega

theorem exactPart_carried (negative : Bool) (amount : TimeUnit → Nat) :
    (carried negative amount).exactPart = signed negative (1000 * exactMilliseconds amount) := by
  unfold exactPart carried exactMilliseconds carriedHours carriedMinutes carriedSeconds
  cases negative with
  | false =>
      simp only [signed, Bool.false_eq_true, if_false]
      omega
  | true =>
      simp only [signed, if_true]
      omega

theorem totalMonths_negate (offset : Offset) : offset.negate.totalMonths = -offset.totalMonths := by
  unfold totalMonths negate
  dsimp only
  omega

theorem exactPart_negate (offset : Offset) : offset.negate.exactPart = -offset.exactPart := by
  unfold exactPart negate
  dsimp only
  omega

end Offset

end DateCalculator
