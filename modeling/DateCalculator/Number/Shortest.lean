/-!
Shortest decimals. A double stands for every real that rounds to it; its shortest decimal is the
point of that interval on the coarsest decimal grid that has one, and of two such points the nearer
to the double itself.
-/

namespace DateCalculator.Number

structure Decimal where
  coefficient : Nat
  exponent : Int
  deriving DecidableEq

/-- Below a power of two the doubles lie twice as close together as above it. -/
abbrev HasNarrowLowerGap (mantissa : Nat) (exponent : Int) : Prop :=
  mantissa = Nat.pow 2 52 ∧ -1074 < exponent

/-- Whether `point * step` lies in the rounding interval of `mantissa * 2 ^ exponent`, everything
measured in quarters of `2 ^ exponent` and scaled by `unit`. -/
def roundsTo (mantissa : Nat) (exponent : Int) (unit step point : Nat) : Bool :=
  let lower := if HasNarrowLowerGap mantissa exponent then 4 * mantissa - 1 else 4 * mantissa - 2
  let upper := 4 * mantissa + 2
  if mantissa % 2 = 0 then lower * unit ≤ point * step && point * step ≤ upper * unit
  else lower * unit < point * step && point * step < upper * unit

/-- The multiple of `10 ^ grid` nearest to `mantissa * 2 ^ exponent` among its two neighbours there
that round to it; of two equally near the even one. -/
def gridPoint? (mantissa : Nat) (exponent grid : Int) : Option Nat :=
  let step := Nat.pow 10 grid.toNat * Nat.pow 2 (2 - exponent).toNat
  let unit := Nat.pow 10 (-grid).toNat * Nat.pow 2 (exponent - 2).toNat
  let target := 4 * mantissa * unit
  let below := target / step
  let above := below + 1
  let downward := target - below * step
  let upward := above * step - target
  match roundsTo mantissa exponent unit step below, roundsTo mantissa exponent unit step above with
  | false, false => none
  | true, false => some below
  | false, true => some above
  | true, true =>
      if downward < upward ∨ (downward = upward ∧ below % 2 = 0) then some below else some above

/-- Tries ever finer grids. The last one, tried when no steps are left, holds the double itself. -/
def refine (mantissa : Nat) (exponent : Int) : Nat → Int → Decimal
  | 0, grid => ⟨(gridPoint? mantissa exponent grid).getD 0, grid⟩
  | steps + 1, grid =>
      match gridPoint? mantissa exponent grid with
      | some coefficient => ⟨coefficient, grid⟩
      | none => refine mantissa exponent steps (grid - 1)

/-- A grid at least as coarse as the number is large: `30103 / 100000` is just above the decimal
logarithm of two. -/
def coarsestGrid (mantissa : Nat) (exponent : Int) : Int :=
  ((mantissa.log2 + 1 : Int) + exponent) * 30103 / 100000 + 1

def shortest (mantissa : Nat) (exponent : Int) : Decimal :=
  let coarsest := coarsestGrid mantissa exponent
  refine mantissa exponent (coarsest - min exponent 0).toNat coarsest

end DateCalculator.Number
