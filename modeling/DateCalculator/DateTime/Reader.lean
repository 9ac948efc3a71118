import DateCalculator.DateTime
import DateCalculator.Numeral
import DateCalculator.Text.Quoted

/-!
Reading a moment. A date is `YYYY-MM-DD` or `YYYYMMDD`, a week date `YYYY-Www-D` or `YYYYWwwD`, or a
day of the year `YYYY-DDD` or `YYYYDDD`; after a `T` in either case there may follow hours, minutes
and seconds, parted by colons, the last with a fraction. Missing fields count as zero and fields
after the third are ignored. The hours are checked before anything else, and next that only ASCII
characters are used.
-/

namespace DateCalculator.DateTime

inductive ReadError where
  | malformed
  | hourOutOfRange (text : String)
  | beyondCalendar
  deriving DecidableEq

def ReadError.message? : ReadError → Option String
  | malformed => none
  | hourOutOfRange text => some s!"Hour out of range in {Text.quoted text}: expected 00-23"
  | beyondCalendar => none

/-- Letters beyond ASCII whose capital form has an ASCII letter that matters: all its letters are
ASCII, or one of them is a `T`. -/
def foreignCapitals : List (Char × List Char) := [
  ('\u00DF', ['S', 'S']), ('\u0131', ['I']), ('\u017F', ['S']), ('\u1E97', ['T', '\u0308']),
  ('\uFB00', ['F', 'F']), ('\uFB01', ['F', 'I']), ('\uFB02', ['F', 'L']),
  ('\uFB03', ['F', 'F', 'I']), ('\uFB04', ['F', 'F', 'L']), ('\uFB05', ['S', 'T']),
  ('\uFB06', ['S', 'T'])]

def capitals (character : Char) : List Char :=
  (foreignCapitals.lookup character).getD [character.toUpper]

def isAscii (text : List Char) : Bool := text.all fun character => character.toNat < 128

def splitAtT : List Char → List Char × List Char
  | [] => ([], [])
  | 'T' :: rest => ([], rest)
  | first :: rest =>
      let (date, time) := splitAtT rest
      (first :: date, time)

def splitAtColons : List Char → List (List Char)
  | [] => [[]]
  | ':' :: rest => [] :: splitAtColons rest
  | first :: rest =>
      match splitAtColons rest with
      | [] => [[first]]
      | field :: fields => (first :: field) :: fields

def twoWide (field : List Char) : List Char := List.replicate (2 - field.length) '0' ++ field

def dateOf? (year month day : Nat) : Option Date :=
  if 0 < year then Date.of? year month day else none

def calendarFields? (text : List Char) : Option ((Nat × Nat × Nat) × List Char) :=
  match Numeral.take? 4 text with
  | some (year, '-' :: afterYear) =>
      match Numeral.take? 2 afterYear with
      | some (month, '-' :: afterMonth) =>
          (Numeral.take? 2 afterMonth).map fun (day, rest) => ((year, month, day), rest)
      | _ => none
  | some (year, afterYear) => do
      let (month, afterMonth) ← Numeral.take? 2 afterYear
      let (day, rest) ← Numeral.take? 2 afterMonth
      some ((year, month, day), rest)
  | none => none

/-- The Monday of the week that holds 4 January. -/
def firstMonday (year : Nat) : Int :=
  let fourth := Calendar.daysBeforeYear year + 4
  fourth - (fourth - 1) % 7

def weekDate (year week day : Nat) : Except ReadError Date :=
  if 0 < year ∧ (0 < week ∧ week ≤ 53) ∧ 0 < day ∧ day ≤ 7 then
    let date := Date.ofDayNumber (firstMonday year + 7 * (week - 1) + (day - 1))
    if date.year ≤ 9999 then .ok date else .error .beyondCalendar
  else .error .malformed

def ordinalDate (year day : Nat) : Except ReadError Date :=
  if valid : 0 < year ∧ 0 < day ∧ day ≤ Calendar.yearLength year then
    .ok (Date.ofDayOfYear year day valid.2.1 valid.2.2)
  else .error .malformed

def readUncommonDate (text : List Char) : Except ReadError (Date × List Char) :=
  match Numeral.take? 4 text with
  | none => .error .malformed
  | some (year, afterYear) =>
      let dashed := afterYear.head? = some '-'
      match (if dashed then afterYear.drop 1 else afterYear) with
      | 'W' :: afterW =>
          match Numeral.take? 2 afterW with
          | none => .error .malformed
          | some (week, afterWeek) =>
              if (afterWeek.head? = some '-') = dashed then
                match Numeral.take? 1 (if dashed then afterWeek.drop 1 else afterWeek) with
                | none => .error .malformed
                | some (day, rest) => (weekDate year week day).map (·, rest)
              else .error .malformed
      | afterDash =>
          match Numeral.take? 3 afterDash with
          | none => .error .malformed
          | some (day, rest) => (ordinalDate year day).map (·, rest)

/-- A text in the form of a calendar date is read as one even if there is no such day. -/
def readDate (text : List Char) : Except ReadError Date := do
  let (date, rest) ← match calendarFields? text with
    | some ((year, month, day), rest) =>
        match dateOf? year month day with
        | some date => .ok (date, rest)
        | none => .error .malformed
    | none => readUncommonDate text
  if rest.isEmpty then .ok date else .error .malformed

def twoDigits? (field : List Char) : Option Nat :=
  match Numeral.take? 2 field with
  | some (value, []) => some value
  | _ => none

/-- Two digits of seconds, with the microseconds of the fraction after them, cut to six digits. -/
def seconds? (field : List Char) : Option (Nat × Nat) :=
  match Numeral.take? 2 field with
  | some (second, []) => some (second, 0)
  | some (second, mark :: digits) =>
      if (mark = '.' ∨ mark = ',') ∧ digits ≠ [] ∧ digits.all Char.isDigit then
        some (second, Nat.ofDigitChars 10 ((digits ++ List.replicate 6 '0').take 6) 0)
      else none
  | none => none

def readTime? (hours minutes seconds : List Char) : Option Nat := do
  let hour ← twoDigits? hours
  let minute ← twoDigits? minutes
  let (second, microsecond) ← seconds? seconds
  timeOfDay? hour minute second microsecond

def read (text : String) : Except ReadError DateTime :=
  let (date, time) := splitAtT (text.toList.flatMap capitals)
  let fields := (splitAtColons time).map twoWide
  let hours := fields.getD 0 ['0', '0']
  let minutes := fields.getD 1 ['0', '0']
  let seconds := fields.getD 2 ['0', '0']
  match Numeral.readInteger? hours with
  | none => .error .malformed
  | some hour =>
      if 23 < hour then .error (.hourOutOfRange text)
      else if !([date, hours, minutes, seconds].all isAscii) then .error .malformed
      else
        match readDate date with
        | .error error => .error error
        | .ok date =>
            match (readTime? hours minutes seconds).bind (of? date) with
            | some moment => .ok moment
            | none => .error .malformed

end DateCalculator.DateTime
