import DateCalculator.Locale
import DateCalculator.Value

/-!
Values for the reader: the conventions of a locale first, the text of the value in brackets after
it. Durations are rounded to seconds and shown from days down; numbers look the same everywhere.
-/

namespace DateCalculator.Presentation

inductive Failure where
  | unknownLocale
  | tooManyDays
  | numeralTooLong
  deriving DecidableEq

def defaultLocale : String := "en_US"

def dayLimit : Nat := Nat.pow 10 25

def displayUnits : List TimeUnit := [.day, .hour, .minute, .second]

def amounts (span : Duration) : List (TimeUnit × Nat) :=
  (displayUnits.map fun unit => (unit, span.magnitude unit)).filter fun shown => shown.2 ≠ 0

def localizeDuration (locale : Locale) (span : Duration) : Except Failure String :=
  let rounded := span.round .second .day
  if rounded.magnitude .day < dayLimit then
    match amounts rounded with
    | [] => .ok (locale.amount false .second 0)
    | (unit, first) :: rest =>
        .ok <| locale.join <|
          locale.amount (rounded.sign < 0) unit first ::
            rest.map fun (unit, amount) => locale.amount false unit amount
  else .error .tooManyDays

def localize (value : Value) (localeName : String) : Except Failure String :=
  match value, Locale.ofName? localeName with
  | .number number, _ => .ok (Number.text number)
  | .dateTime moment, some locale => .ok (locale.moment moment)
  | .duration span, some locale => localizeDuration locale span
  | _, none => .error .unknownLocale

def present (value : Value) (localeName : String) : Except Failure String :=
  match localize value localeName with
  | .error failure => .error failure
  | .ok localized =>
      match value.canonical? with
      | some canonical => .ok s!"{localized} ({canonical})"
      | none => .error .numeralTooLong

end DateCalculator.Presentation
