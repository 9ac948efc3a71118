import DateCalculator.Duration
import DateCalculator.Numeral
import DateCalculator.Text.Quoted

/-!
Reading a duration: a sign, `P`, then amounts with their designators from years down to days, then
`T` and the same from hours down to seconds. At least one amount is needed, and one after a `T`.
Letters may be in either case, digits of any script; only the seconds may have a fraction, cut to
milliseconds, and one line end may follow.
-/

namespace DateCalculator.Duration

inductive ReadError where
  | malformed (text : String)
  | numeralTooLong
  deriving DecidableEq

def ReadError.message? : ReadError → Option String
  | malformed text => some <|
      s!"Invalid ISO-8601 duration: {Text.quoted text}\n" ++
        "Expected P[nY][nM][nW][nD][T[nH][nM][nS]], e.g. P1DT2H or PT30M"
  | numeralTooLong => none

/-- Whether a character stands for a capital letter, in either case; the long s counts as an s. -/
def isLetter (letter character : Char) : Bool :=
  character.toUpper = letter || (letter = 'S' && character = '\u017F')

/-- Splits a numeral and its designator from the front of a text. If they are not there, nothing is
taken. -/
def takeAmount (designator : Char) (text : List Char) : Option (List Char) × List Char :=
  let digits := text.takeWhile Text.isDecimalDigit
  match text.dropWhile Text.isDecimalDigit with
  | mark :: rest =>
      if digits ≠ [] ∧ isLetter designator mark then (some digits, rest) else (none, text)
  | [] => (none, text)

structure Seconds where
  whole : List Char
  fraction : List Char

/-- Splits the seconds from the front of a text. If they are not there, nothing is taken. -/
def takeSeconds (text : List Char) : Option Seconds × List Char :=
  let whole := text.takeWhile Text.isDecimalDigit
  match text.dropWhile Text.isDecimalDigit with
  | mark :: rest =>
      if whole = [] then (none, text)
      else if isLetter 'S' mark then (some ⟨whole, []⟩, rest)
      else if mark = '.' ∨ mark = ',' then
        let fraction := rest.takeWhile Text.isDecimalDigit
        match rest.dropWhile Text.isDecimalDigit with
        | letter :: rest =>
            if fraction ≠ [] ∧ isLetter 'S' letter then (some ⟨whole, fraction⟩, rest)
            else (none, text)
        | [] => (none, text)
      else (none, text)
  | [] => (none, text)

structure Parts where
  negative : Bool
  years : Option (List Char)
  months : Option (List Char)
  weeks : Option (List Char)
  days : Option (List Char)
  hours : Option (List Char)
  minutes : Option (List Char)
  seconds : Option Seconds

def takeSign : List Char → Bool × List Char
  | '-' :: rest => (true, rest)
  | '+' :: rest => (false, rest)
  | text => (false, text)

def afterT? : List Char → Option (List Char)
  | mark :: digit :: rest =>
      if isLetter 'T' mark ∧ Text.isDecimalDigit digit then some (digit :: rest) else none
  | _ => none

def takeTime (text : List Char) :
    (Option (List Char) × Option (List Char) × Option Seconds) × List Char :=
  match afterT? text with
  | none => ((none, none, none), text)
  | some time =>
      let (hours, afterHours) := takeAmount 'H' time
      let (minutes, afterMinutes) := takeAmount 'M' afterHours
      let (seconds, rest) := takeSeconds afterMinutes
      ((hours, minutes, seconds), rest)

def Parts.anyGiven (parts : Parts) : Bool :=
  parts.years.isSome || parts.months.isSome || parts.weeks.isSome || parts.days.isSome ||
    parts.hours.isSome || parts.minutes.isSome || parts.seconds.isSome

def parts? (text : List Char) : Option Parts :=
  match takeSign text with
  | (negative, letter :: afterP) =>
      let (years, afterYears) := takeAmount 'Y' afterP
      let (months, afterMonths) := takeAmount 'M' afterYears
      let (weeks, afterWeeks) := takeAmount 'W' afterMonths
      let (days, afterDays) := takeAmount 'D' afterWeeks
      let ((hours, minutes, seconds), rest) := takeTime afterDays
      let parts : Parts := { negative, years, months, weeks, days, hours, minutes, seconds }
      if isLetter 'P' letter ∧ parts.anyGiven ∧ (rest = [] ∨ rest = ['\n']) then some parts
      else none
  | (_, []) => none

def amount? : Option (List Char) → Option Nat
  | none => some 0
  | some digits => Numeral.value? digits

def thousandths (fraction : List Char) : Nat :=
  Numeral.value ((fraction ++ List.replicate 3 '0').take 3)

def ofParts? (parts : Parts) : Option Duration := do
  let years ← amount? parts.years
  let months ← amount? parts.months
  let weeks ← amount? parts.weeks
  let days ← amount? parts.days
  let hours ← amount? parts.hours
  let minutes ← amount? parts.minutes
  let seconds ← amount? (parts.seconds.map Seconds.whole)
  let milliseconds := (parts.seconds.map fun seconds => thousandths seconds.fraction).getD 0
  some <| ofAmounts parts.negative fun
    | .year => years
    | .month => months
    | .week => weeks
    | .day => days
    | .hour => hours
    | .minute => minutes
    | .second => seconds
    | .millisecond => milliseconds

def read (text : String) : Except ReadError Duration :=
  match parts? text.toList with
  | none => .error (.malformed text)
  | some parts =>
      match ofParts? parts with
      | none => .error .numeralTooLong
      | some span => .ok span

end DateCalculator.Duration
