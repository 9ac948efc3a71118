/-!
Whole numbers and doubles: reading a decimal literal, the double nearest to a whole number, and the
whole number nearest to a double.
-/

namespace DateCalculator.Number

def ofDecimal (whole fraction : List Char) : Float :=
  Float.ofScientific (Nat.ofDigitChars 10 (whole ++ fraction) 0) true fraction.length

/-- Whole numbers from the midpoint between the largest double and `2 ^ 1024` on have no nearest
double. -/
abbrev FitsDouble (value : Int) : Prop := value.natAbs < Nat.pow 2 1024 - Nat.pow 2 970

def ofInt? (value : Int) : Option Float :=
  if FitsDouble value then some (Float.ofInt value) else none

def floor (number : Float) : Int :=
  match number.toModel.unpack with
  | .finite sign mantissa exponent _ =>
      sign.apply mantissa * Nat.pow 2 exponent.toNat / Nat.pow 2 (-exponent).toNat
  | _ => 0

/-- The nearest whole number, halves upward: the floor of the double sum with one half. -/
def nearest? (number : Float) : Option Int :=
  if number.isFinite then some (floor (number + 0.5)) else none

end DateCalculator.Number
