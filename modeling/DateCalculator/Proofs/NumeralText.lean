import DateCalculator.Numeral
import Mathlib.Data.List.Basic
import Mathlib.Data.List.Induction
import Mathlib.Data.List.TakeWhile

/-!
Numerals that are read back. A number is read back from its digits, also when they are padded, and a
fraction from what is left of it without its trailing zeros.
-/

namespace DateCalculator

theorem Text.decimalDigit?_of_isDigit {character : Char} (digit : character.isDigit = true) :
    decimalDigit? character = some (character.toNat - 48) := by
  have bounds : 48 ≤ character.toNat ∧ character.toNat ≤ 57 := by
    simp only [Char.isDigit, Bool.and_eq_true, decide_eq_true_eq, UInt32.le_iff_toNat_le,
      ge_iff_le] at digit
    exact digit
  have inside : (decide (48 ≤ character.toNat) && decide (character.toNat < 48 + 10)) = true := by
    simp only [Bool.and_eq_true, decide_eq_true_eq]
    omega
  have found : digitZeros.find? (fun start => start ≤ character.toNat &&
      character.toNat < start + 10) = some 48 := List.find?_cons_of_pos inside
  rw [decimalDigit?, found]
  rfl

theorem Text.isDecimalDigit_of_isDigit {character : Char} (digit : character.isDigit = true) :
    isDecimalDigit character = true := by
  rw [isDecimalDigit, decimalDigit?_of_isDigit digit]
  rfl

namespace Numeral

variable {digits : List Char}

theorem value_concat (digits : List Char) (digit : Char) :
    value (digits ++ [digit]) = 10 * value digits + (Text.decimalDigit? digit).getD 0 := by
  rw [value, List.foldl_append]
  rfl

/-- A numeral is below the power of ten with as many zeros as it has digits. -/
theorem value_lt (digits : List Char) : value digits < Nat.pow 10 digits.length := by
  induction digits using List.reverseRecOn with
  | nil => exact Nat.one_pos
  | append_singleton digits digit ih =>
      have small : (Text.decimalDigit? digit).getD 0 < 10 := by
        cases found : Text.decimalDigit? digit with
        | none => decide
        | some number => exact Text.decimalDigit?_lt_ten found
      rw [value_concat, List.length_append]
      change _ < Nat.pow 10 digits.length * 10
      omega

theorem fits_value (short : digits.length ≤ digitLimit) : Fits (value digits) := by
  have general (limit : Nat) (short : digits.length ≤ limit) : value digits < Nat.pow 10 limit :=
    Nat.lt_of_lt_of_le (value_lt digits) (Nat.pow_le_pow_right (by decide) short)
  exact general digitLimit short

theorem value_eq_ofDigitChars (ascii : ∀ digit ∈ digits, digit.isDigit = true) :
    value digits = Nat.ofDigitChars 10 digits 0 := by
  refine List.foldl_ext _ _ 0 fun total digit member => ?_
  rw [Text.decimalDigit?_of_isDigit (ascii digit member)]
  rfl

theorem isDigit_of_mem_toDigits {number : Nat} :
    ∀ digit ∈ Nat.toDigits 10 number, digit.isDigit = true :=
  fun _ member => Nat.isDigit_of_mem_toDigits (by decide) (by decide) member

theorem value_toDigits (number : Nat) : value (Nat.toDigits 10 number) = number := by
  rw [value_eq_ofDigitChars isDigit_of_mem_toDigits]
  exact Nat.ofDigitChars_toDigits (by decide) (by decide)

theorem isDigit_of_mem_padded {width number : Nat} :
    ∀ digit ∈ padded width number, digit.isDigit = true := by
  intro digit member
  rcases List.mem_append.mp member with zero | shown
  · rw [List.eq_of_mem_replicate zero]
    decide
  · exact isDigit_of_mem_toDigits digit shown

theorem value_padded (width number : Nat) : value (padded width number) = number := by
  rw [value_eq_ofDigitChars isDigit_of_mem_padded, padded, Nat.ofDigitChars_append,
    Nat.ofDigitChars_replicate_zero]
  exact Nat.ofDigitChars_toDigits (by decide) (by decide)

theorem length_padded {width number : Nat} (positive : 0 < width)
    (bound : number < Nat.pow 10 width) :
    (padded width number).length = width := by
  have shown := (Nat.length_toDigits_le_iff (by decide) positive).mpr bound
  rw [padded, List.length_append, List.length_replicate]
  omega

/-- Only zeros are taken from the end. -/
theorem exists_withoutTrailingZeros (digits : List Char) :
    ∃ count, withoutTrailingZeros digits ++ List.replicate count '0' = digits := by
  refine ⟨(digits.reverse.takeWhile (· = '0')).length, ?_⟩
  have zeros : digits.reverse.takeWhile (· = '0') =
      List.replicate (digits.reverse.takeWhile (· = '0')).length '0' := by
    rw [List.eq_replicate_iff]
    exact ⟨rfl, fun digit member => by simpa using List.mem_takeWhile_imp member⟩
  have whole := congrArg List.reverse
    (List.takeWhile_append_dropWhile (p := (· = '0')) (l := digits.reverse))
  rwa [List.reverse_append, List.reverse_reverse, zeros, List.reverse_replicate] at whole

/-- What was taken from the end is filled up again. -/
theorem take_withoutTrailingZeros (digits : List Char) :
    (withoutTrailingZeros digits ++ List.replicate digits.length '0').take digits.length =
      digits := by
  obtain ⟨count, whole⟩ := exists_withoutTrailingZeros digits
  have lengths := congrArg List.length whole
  rw [List.length_append, List.length_replicate] at lengths
  have split : List.replicate digits.length '0' =
      List.replicate count '0' ++ List.replicate (digits.length - count) '0' := by
    rw [List.replicate_append_replicate]
    congr 1
    omega
  rw [split, ← List.append_assoc, whole, List.take_left]

/-- A fraction that is filled up again is the padded number. -/
theorem take_fraction {width number : Nat} (positive : 0 < width)
    (bound : number < Nat.pow 10 width) :
    (fraction width number ++ List.replicate width '0').take width = padded width number := by
  have filled := take_withoutTrailingZeros (padded width number)
  rwa [length_padded positive bound] at filled

theorem mem_of_mem_withoutTrailingZeros {digit : Char}
    (member : digit ∈ withoutTrailingZeros digits) : digit ∈ digits := by
  obtain ⟨count, whole⟩ := exists_withoutTrailingZeros digits
  rw [← whole]
  exact List.mem_append_left _ member

end Numeral

end DateCalculator
