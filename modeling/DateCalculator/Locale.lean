import DateCalculator.DateTime
import DateCalculator.Numeral
import DateCalculator.TimeUnit

/-!
Locales and their conventions: how each writes a date and a time of day, groups digits, names units
and joins the parts of a list.
-/

namespace DateCalculator

inductive Locale where
  | americanEnglish | britishEnglish | german | french
  deriving DecidableEq

namespace Locale

def all : List Locale := [americanEnglish, britishEnglish, german, french]

def name : Locale → String
  | americanEnglish => "en_US"
  | britishEnglish => "en_GB"
  | german => "de_DE"
  | french => "fr_FR"

/-- The locale of a name in any case. An encoding after a point or a modifier after an at sign does
not matter. -/
def ofName? (name : String) : Option Locale :=
  let bare := (name.toList.takeWhile fun mark => mark ≠ '.' && mark ≠ '@').map Char.toLower
  all.find? fun locale => locale.name.toList.map Char.toLower = bare

def narrowSpace : String := "\u202F"

def firmSpace : String := "\u00A0"

def englishMonths : List String :=
  ["Jan", "Feb", "Mar", "Apr", "May", "Jun", "Jul", "Aug", "Sep", "Oct", "Nov", "Dec"]

def monthNames : Locale → List String
  | americanEnglish => englishMonths
  | britishEnglish => englishMonths.set 8 "Sept"
  | german => []
  | french =>
      ["janv.", "févr.", "mars", "avr.", "mai", "juin", "juil.", "août", "sept.", "oct.", "nov.",
        "déc."]

def monthName (locale : Locale) (month : Nat) : String := locale.monthNames.getD (month - 1) ""

def twoDigits (number : Nat) : String := String.ofList (Numeral.padded 2 number)

def date (locale : Locale) (date : Date) : String :=
  let month := locale.monthName date.month
  match locale with
  | americanEnglish => s!"{month} {date.day}, {date.year}"
  | britishEnglish => s!"{date.day} {month} {date.year}"
  | german => s!"{twoDigits date.day}.{twoDigits date.month}.{date.year}"
  | french => s!"{date.day} {month} {date.year}"

def dialHour (hour : Nat) : Nat := if hour % 12 = 0 then 12 else hour % 12

def time (locale : Locale) (moment : DateTime) : String :=
  let rest := s!"{twoDigits moment.minute}:{twoDigits moment.second}"
  match locale with
  | americanEnglish =>
      let half := if moment.hour < 12 then "AM" else "PM"
      s!"{dialHour moment.hour}:{rest}{narrowSpace}{half}"
  | _ => s!"{twoDigits moment.hour}:{rest}"

def moment (locale : Locale) (moment : DateTime) : String :=
  s!"{locale.date moment.date}, {locale.time moment}"

def groupSeparator : Locale → String
  | americanEnglish => ","
  | britishEnglish => ","
  | german => "."
  | french => narrowSpace

def groups : List Char → List (List Char)
  | [] => []
  | ones :: [] => [[ones]]
  | ones :: tens :: [] => [[tens, ones]]
  | ones :: tens :: hundreds :: rest => [hundreds, tens, ones] :: groups rest

def grouped (locale : Locale) (number : Nat) : String :=
  locale.groupSeparator.intercalate
    ((groups (Nat.toDigits 10 number).reverse).reverse.map String.ofList)

/-- What follows the amount of a unit, blank included. Only units from days to seconds are shown. -/
def unitLabel (locale : Locale) (unit : TimeUnit) (amount : Nat) : String :=
  let plural := if amount = 1 then "" else "s"
  match locale, unit with
  | americanEnglish, .day => " day" ++ plural
  | americanEnglish, .hour => " hr"
  | americanEnglish, .minute => " min"
  | americanEnglish, _ => " sec"
  | britishEnglish, .day => " day" ++ plural
  | britishEnglish, .hour => " hr" ++ plural
  | britishEnglish, .minute => " min" ++ plural
  | britishEnglish, _ => " sec" ++ plural
  | german, .day => " Tg."
  | german, .hour => " Std."
  | german, .minute => " Min."
  | german, _ => " Sek."
  | french, .day => narrowSpace ++ "j"
  | french, .hour => narrowSpace ++ "h"
  | french, .minute => firmSpace ++ "min"
  | french, _ => narrowSpace ++ "s"

def amount (locale : Locale) (negative : Bool) (unit : TimeUnit) (amount : Nat) : String :=
  (if negative then "-" else "") ++ locale.grouped amount ++ locale.unitLabel unit amount

def lastSeparator : Locale → String
  | french => " et "
  | _ => ", "

def join (locale : Locale) : List String → String
  | [] => ""
  | [part] => part
  | [first, last] => first ++ locale.lastSeparator ++ last
  | first :: rest => first ++ ", " ++ join locale rest

end Locale

end DateCalculator
