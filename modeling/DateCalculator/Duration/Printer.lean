import DateCalculator.Duration
import DateCalculator.Numeral

/-!
The text of a duration: a sign, the non-zero amounts with their designators, and the seconds
together with the milliseconds as one decimal.
-/

namespace DateCalculator.Duration

def magnitude (span : Duration) (unit : TimeUnit) : Nat := (span.get unit).natAbs

def part (amount : Nat) (designator : Char) : List Char :=
  if amount = 0 then [] else Nat.toDigits 10 amount ++ [designator]

def secondsPart (span : Duration) : Nat :=
  span.magnitude .second * 1000 + span.magnitude .millisecond

def secondsText (count : Nat) : List Char :=
  if count % 1000 = 0 then part (count / 1000) 'S'
  else Nat.toDigits 10 (count / 1000) ++ '.' :: Numeral.fraction 3 (count % 1000) ++ ['S']

def dateText (span : Duration) : List Char :=
  part (span.magnitude .year) 'Y' ++ part (span.magnitude .month) 'M' ++
    part (span.magnitude .week) 'W' ++ part (span.magnitude .day) 'D'

def timeText (span : Duration) : List Char :=
  part (span.magnitude .hour) 'H' ++ part (span.magnitude .minute) 'M' ++
    secondsText span.secondsPart

def characters (span : Duration) : List Char :=
  if span.sign = 0 then ['P', 'T', '0', 'S']
  else
    (if span.sign < 0 then ['-'] else []) ++ 'P' :: span.dateText ++
      if span.timeText = [] then [] else 'T' :: span.timeText

def text (span : Duration) : String := String.ofList span.characters

def Printable (span : Duration) : Prop :=
  (∀ unit ∈ [TimeUnit.year, .month, .week, .day, .hour, .minute],
    Numeral.Fits (span.magnitude unit)) ∧ Numeral.Fits (span.secondsPart / 1000)

instance (span : Duration) : Decidable span.Printable := by
  unfold Printable
  infer_instance

end DateCalculator.Duration
