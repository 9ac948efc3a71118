import DateCalculator.DateTime
import DateCalculator.Duration
import DateCalculator.Number.Whole

/-!
Shifting a moment by a duration. The amounts are first carried upward, each unit into the next:
microseconds up to days, and months up to years. The years and months then move the date along the
calendar and what remains is an exact time difference.
-/

namespace DateCalculator

structure Offset where
  years : Int
  months : Int
  days : Int
  hours : Int
  minutes : Int
  seconds : Int
  microseconds : Int
  deriving DecidableEq

namespace Offset

/-- Splits an amount into whole groups and the rest, both of the sign of the amount. Amounts that no
double comes near cannot be carried. -/
def carry? (amount : Int) (group : Nat) : Option (Int × Int) :=
  if Number.FitsDouble amount then some (amount.tdiv group, amount.tmod group) else none

def ofDuration? (span : Duration) : Option Offset := do
  let (carriedSeconds, microseconds) ← carry? (1000 * span.milliseconds) 1000000
  let (carriedMinutes, seconds) ← carry? (span.seconds + carriedSeconds) 60
  let (carriedHours, minutes) ← carry? (span.minutes + carriedMinutes) 60
  let (carriedDays, hours) ← carry? (span.hours + carriedHours) 24
  let (carriedYears, months) ← carry? span.months 12
  some {
    years := span.years + carriedYears, months
    days := span.days + 7 * span.weeks + carriedDays
    hours, minutes, seconds, microseconds }

def negate (offset : Offset) : Offset :=
  ⟨-offset.years, -offset.months, -offset.days, -offset.hours, -offset.minutes, -offset.seconds,
    -offset.microseconds⟩

def totalMonths (offset : Offset) : Int := 12 * offset.years + offset.months

def exactPart (offset : Offset) : Int :=
  (((offset.days * 24 + offset.hours) * 60 + offset.minutes) * 60 + offset.seconds) * 1000000 +
    offset.microseconds

end Offset

/-- Moves the date by months, then the moment by the exact part; both have to stay within the
supported years. -/
def DateTime.shift? (moment : DateTime) (offset : Offset) : Option DateTime := do
  let moved ← DateTime.of? (moment.date.addMonths offset.totalMonths) moment.sinceMidnight
  DateTime.ofInstant? (moved.instant + offset.exactPart)

def DateTime.since (later earlier : DateTime) : Duration :=
  Duration.ofMicroseconds (later.instant - earlier.instant)

end DateCalculator
