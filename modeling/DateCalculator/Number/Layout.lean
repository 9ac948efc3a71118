import DateCalculator.Number.Shortest

/-!
The text of a number. Magnitudes from 1e-6 up to 1e21 are written positionally, all others with one
digit before the point and a signed exponent; no zero is written that the value does not need.
-/

namespace DateCalculator.Number

def positionalDigits : Int := 21

def leadingZeros : Int := 6

def exponentText (exponent : Int) : List Char :=
  'e' :: (if 0 ≤ exponent then '+' else '-') :: Nat.toDigits 10 exponent.natAbs

def mantissaText : List Char → List Char
  | [] => []
  | [digit] => [digit]
  | first :: second :: rest => first :: '.' :: second :: rest

def place (digits : List Char) (point : Int) : List Char :=
  let count : Int := digits.length
  if count ≤ point ∧ point ≤ positionalDigits then
    digits ++ List.replicate (point - count).toNat '0'
  else if 0 < point ∧ point ≤ positionalDigits then
    digits.take point.toNat ++ '.' :: digits.drop point.toNat
  else if -leadingZeros < point ∧ point ≤ 0 then
    '0' :: '.' :: List.replicate (-point).toNat '0' ++ digits
  else mantissaText digits ++ exponentText (point - 1)

def layout (negative : Bool) (decimal : Decimal) : List Char :=
  let digits := Nat.toDigits 10 decimal.coefficient
  (if negative then ['-'] else []) ++ place digits (digits.length + decimal.exponent)

def text (number : Float) : String :=
  match number.toModel.unpack with
  | .notANumber => "NaN"
  | .infinity .positive => "Infinity"
  | .infinity .negative => "-Infinity"
  | .zero _ => "0"
  | .finite sign mantissa exponent _ =>
      String.ofList (layout (sign == .negative) (shortest mantissa exponent))

end DateCalculator.Number
