import DateCalculator.DateTime
import DateCalculator.Numeral

/-!
The text of a moment: a date and a time of day of fixed width, so that text order is time order,
and after them as many fraction digits as the moment needs.
-/

namespace DateCalculator.DateTime

def characters (moment : DateTime) : List Char :=
  Numeral.padded 4 moment.date.year.toNat ++ '-' :: Numeral.padded 2 moment.date.month ++
    '-' :: Numeral.padded 2 moment.date.day ++ 'T' :: Numeral.padded 2 moment.hour ++
    ':' :: Numeral.padded 2 moment.minute ++ ':' :: Numeral.padded 2 moment.second ++
    if moment.microsecond = 0 then [] else '.' :: Numeral.fraction 6 moment.microsecond

def text (moment : DateTime) : String := String.ofList moment.characters

end DateCalculator.DateTime
