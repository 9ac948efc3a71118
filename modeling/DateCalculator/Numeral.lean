import DateCalculator.Text.Blank
import DateCalculator.Text.DecimalDigit

/-!
Decimal numerals: natural numbers as digit characters. Whole numbers of more than 4300 digits are
neither read nor written.
-/

namespace DateCalculator.Numeral

def digitLimit : Nat := 4300

abbrev Fits (value : Nat) : Prop := value < Nat.pow 10 digitLimit

theorem fits_iff_length_le {value : Nat} :
    Fits value ↔ (Nat.toDigits 10 value).length ≤ digitLimit := by
  have general (limit : Nat) (positive : 0 < limit) :
      value < Nat.pow 10 limit ↔ (Nat.toDigits 10 value).length ≤ limit :=
    (Nat.length_toDigits_le_iff (by decide) positive).symm
  exact general digitLimit (by decide)

def padded (width value : Nat) : List Char :=
  let digits := Nat.toDigits 10 value
  List.replicate (width - digits.length) '0' ++ digits

def withoutTrailingZeros (digits : List Char) : List Char :=
  (digits.reverse.dropWhile (· = '0')).reverse

def fraction (width value : Nat) : List Char := withoutTrailingZeros (padded width value)

def value (digits : List Char) : Nat :=
  digits.foldl (fun total digit => 10 * total + (Text.decimalDigit? digit).getD 0) 0

def value? (digits : List Char) : Option Nat :=
  if digits.length ≤ digitLimit then some (value digits) else none

def take? (count : Nat) (text : List Char) : Option (Nat × List Char) :=
  let digits := text.take count
  if digits.length = count ∧ digits.all Char.isDigit then
    some (Nat.ofDigitChars 10 digits 0, text.drop count)
  else none

/-- Whether the text is a run of digits of any script in which single underscores may part two
digits. -/
def isGrouped : List Char → Bool
  | [] => false
  | [last] => Text.isDecimalDigit last
  | first :: '_' :: rest => Text.isDecimalDigit first && isGrouped rest
  | first :: rest => Text.isDecimalDigit first && isGrouped rest

/-- The blanks that may surround a number: all but the four information separators. -/
def isPadding (character : Char) : Bool :=
  Text.isBlank character && !(28 ≤ character.toNat && character.toNat ≤ 31)

/-- Lenient reading of a whole number: padding, a sign and grouped digits are allowed. -/
def readInteger? (text : List Char) : Option Int :=
  let unsigned? (digits : List Char) : Option Nat :=
    if isGrouped digits then value? (digits.filter (· ≠ '_')) else none
  match Text.trim isPadding text with
  | '-' :: digits => (unsigned? digits).map fun magnitude => -(magnitude : Int)
  | '+' :: digits => (unsigned? digits).map Int.ofNat
  | digits => (unsigned? digits).map Int.ofNat

end DateCalculator.Numeral
