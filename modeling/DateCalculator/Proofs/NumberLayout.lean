import DateCalculator.Number.Layout
import DateCalculator.Proofs.NumeralText
import DateCalculator.Proofs.ShortestDecimal

/-!
What the text of a number denotes. Read as a decimal literal it denotes exactly the sign, digits and
exponent that were laid out. It is written with an exponent outside of the magnitudes from 1e-6 up
to 1e21 and positionally within, with no zero that the value does not need, so that no two decimals
have one text.
-/

namespace DateCalculator.Number

open Float.Model.UnpackedFloat

section Reading

/-- The number that digits with or without a point denote. -/
def mantissaValue (digits : List Char) : ℚ :=
  let whole := digits.takeWhile (· ≠ '.')
  let fraction := (digits.dropWhile (· ≠ '.')).tail
  Nat.ofDigitChars 10 (whole ++ fraction) 0 / 10 ^ fraction.length

def exponentValue : List Char → Int
  | '+' :: digits => Nat.ofDigitChars 10 digits 0
  | '-' :: digits => -Nat.ofDigitChars 10 digits 0
  | digits => Nat.ofDigitChars 10 digits 0

def unsignedValue (text : List Char) : ℚ :=
  mantissaValue (text.takeWhile (· ≠ 'e')) * 10 ^ exponentValue (text.dropWhile (· ≠ 'e')).tail

/-- The number that a decimal literal denotes: an optional minus, digits with or without a point,
and behind an `e` the power of ten, if there is one. -/
def literalValue : List Char → ℚ
  | '-' :: text => -unsignedValue text
  | text => unsignedValue text

end Reading

/-- Digits behind a point, or nothing. -/
def pointed (fraction : List Char) : List Char :=
  if fraction = [] then [] else '.' :: fraction

/-- A literal without an exponent: no zero leads but a single one, and none ends the fraction. -/
inductive Positional : List Char → Prop where
  | intro {whole fraction : List Char} (shown : whole ≠ [])
      (digits : ∀ digit ∈ whole ++ fraction, digit.isDigit = true)
      (leading : whole.head? = some '0' → whole = ['0'])
      (trailing : fraction.getLast? ≠ some '0') : Positional (whole ++ pointed fraction)

/-- A literal with an exponent: one digit other than zero before the point, no zero at the end of
the fraction, and the exponent with its sign and without a leading zero. -/
inductive Scientific : List Char → Prop where
  | intro {lead sign : Char} {fraction exponent : List Char} (nonzero : lead ≠ '0')
      (digits : ∀ digit ∈ lead :: fraction ++ exponent, digit.isDigit = true)
      (trailing : fraction.getLast? ≠ some '0') (signed : sign = '+' ∨ sign = '-')
      (shown : exponent ≠ []) (leading : exponent.head? ≠ some '0') :
      Scientific (lead :: pointed fraction ++ 'e' :: sign :: exponent)

/-- The parts of a literal. -/
structure Literal where
  whole : List Char
  fraction : List Char
  exponent : Option Int

namespace Literal

variable {literal : Literal}

def exponentPart (literal : Literal) : List Char :=
  match literal.exponent with
  | none => []
  | some exponent => exponentText exponent

def text (literal : Literal) : List Char :=
  literal.whole ++ pointed literal.fraction ++ literal.exponentPart

def value (literal : Literal) : ℚ :=
  Nat.ofDigitChars 10 (literal.whole ++ literal.fraction) 0 / 10 ^ literal.fraction.length *
    10 ^ literal.exponent.getD 0

def Digits (literal : Literal) : Prop :=
  ∀ digit ∈ literal.whole ++ literal.fraction, digit.isDigit = true

/-- A text is read up to a mark, if what is behind begins with it. -/
theorem split_at_mark {mark : Char} {front back : List Char} (absent : mark ∉ front)
    (marked : ∀ first ∈ back.head?, first = mark) :
    (front ++ back).takeWhile (· ≠ mark) = front ∧ (front ++ back).dropWhile (· ≠ mark) = back := by
  have passed : ∀ character ∈ front, decide (character ≠ mark) = true := by
    intro character member
    simp only [decide_eq_true_eq]
    rintro rfl
    exact absent member
  rw [List.takeWhile_append_of_pos passed, List.dropWhile_append_of_pos passed]
  cases back with
  | nil => simp
  | cons first back =>
      have same : first = mark := marked first rfl
      simp [same]

theorem not_mem_of_isDigit {mark : Char} {digits : List Char} (other : mark.isDigit = false)
    (ascii : ∀ digit ∈ digits, digit.isDigit = true) : mark ∉ digits := by
  intro member
  have digit := ascii mark member
  rw [other] at digit
  contradiction

theorem not_mem_pointed {mark : Char} {fraction : List Char} (other : mark ≠ '.')
    (absent : mark ∉ fraction) : mark ∉ pointed fraction := by
  unfold pointed
  split
  · exact List.not_mem_nil
  · simp [other, absent]

theorem mantissaValue_pointed (digits : literal.Digits) :
    mantissaValue (literal.whole ++ pointed literal.fraction) =
      Nat.ofDigitChars 10 (literal.whole ++ literal.fraction) 0 / 10 ^ literal.fraction.length := by
  have absent : '.' ∉ literal.whole :=
    not_mem_of_isDigit rfl fun digit member => digits digit (List.mem_append_left _ member)
  have marked : ∀ first ∈ (pointed literal.fraction).head?, first = '.' := by
    unfold pointed
    split <;> simp
  have behind : (pointed literal.fraction).tail = literal.fraction := by
    unfold pointed
    split
    next none => rw [none]; rfl
    next => rfl
  obtain ⟨before, after⟩ := split_at_mark absent marked
  simp only [mantissaValue, before, after, behind]

theorem exponentValue_exponentText (exponent : Int) :
    exponentValue (exponentText exponent).tail = exponent := by
  have magnitude : Nat.ofDigitChars 10 (Nat.toDigits 10 exponent.natAbs) 0 = exponent.natAbs :=
    Nat.ofDigitChars_toDigits (by decide) (by decide)
  unfold exponentText
  split
  · change ((Nat.ofDigitChars 10 (Nat.toDigits 10 exponent.natAbs) 0 : Nat) : Int) = exponent
    omega
  · change -((Nat.ofDigitChars 10 (Nat.toDigits 10 exponent.natAbs) 0 : Nat) : Int) = exponent
    omega

theorem e_not_mem (digits : literal.Digits) :
    'e' ∉ literal.whole ++ pointed literal.fraction := by
  rw [List.mem_append, not_or]
  exact ⟨not_mem_of_isDigit rfl fun digit member => digits digit (List.mem_append_left _ member),
    not_mem_pointed (by decide)
      (not_mem_of_isDigit rfl fun digit member => digits digit (List.mem_append_right _ member))⟩

theorem unsignedValue_text (digits : literal.Digits) :
    unsignedValue literal.text = literal.value := by
  have marked : ∀ first ∈ literal.exponentPart.head?, first = 'e' := by
    unfold exponentPart
    split <;> simp [exponentText]
  have exponent : exponentValue literal.exponentPart.tail = literal.exponent.getD 0 := by
    unfold exponentPart
    split
    next none => rw [none]; rfl
    next exponent shown => rw [shown, exponentValue_exponentText, Option.getD_some]
  obtain ⟨before, after⟩ := split_at_mark (e_not_mem digits) marked
  rw [unsignedValue, text, before, after, exponent, mantissaValue_pointed digits, value]

theorem e_mem_text_iff (digits : literal.Digits) :
    'e' ∈ literal.text ↔ literal.exponent ≠ none := by
  have absent := e_not_mem digits
  unfold text exponentPart
  cases literal.exponent with
  | none => simpa using absent
  | some exponent => simp [exponentText]

end Literal

/-- Digits without a zero at either end. -/
structure Significand (digits : List Char) : Prop where
  shown : digits ≠ []
  ascii : ∀ digit ∈ digits, digit.isDigit = true
  leading : digits.head? ≠ some '0'
  trailing : digits.getLast? ≠ some '0'

theorem toDigits_head?_ne {number : Nat} (positive : 0 < number) :
    (Nat.toDigits 10 number).head? ≠ some '0' := by
  intro zero
  have value := Numeral.value_toDigits number
  have short (k : Nat) (some : 0 < k) := Nat.length_toDigits_le_iff (n := number) (b := 10)
    (by decide) some
  cases shown : Nat.toDigits 10 number with
  | nil => rw [shown] at zero; contradiction
  | cons lead digits =>
      rw [shown] at zero value short
      cases zero
      have same : Numeral.value ('0' :: digits) = Numeral.value digits := rfl
      have bound := Numeral.value_lt digits
      rw [same] at value
      rw [value] at bound
      cases digits with
      | nil =>
          change 0 = number at value
          omega
      | cons second digits =>
          have less := (short (second :: digits).length (by simp)).mpr bound
          simp at less

theorem significand_toDigits {coefficient : Nat} (nonzero : coefficient % 10 ≠ 0) :
    Significand (Nat.toDigits 10 coefficient) where
  shown := Nat.toDigits_ne_nil
  ascii := Numeral.isDigit_of_mem_toDigits
  leading := toDigits_head?_ne (by omega)
  trailing := by
    intro zero
    obtain ⟨front, same⟩ := List.getLast?_eq_some_iff.mp zero
    have value := Numeral.value_toDigits coefficient
    rw [same, Numeral.value_concat] at value
    change 10 * Numeral.value front + 0 = coefficient at value
    omega

/-- The parts in which digits are written with a point behind so many of them. -/
def placed (digits : List Char) (point : Int) : Literal :=
  if digits.length ≤ point ∧ point ≤ positionalDigits then
    ⟨digits ++ List.replicate (point - digits.length).toNat '0', [], none⟩
  else if 0 < point ∧ point ≤ positionalDigits then
    ⟨digits.take point.toNat, digits.drop point.toNat, none⟩
  else if -leadingZeros < point ∧ point ≤ 0 then
    ⟨['0'], List.replicate (-point).toNat '0' ++ digits, none⟩
  else ⟨digits.take 1, digits.drop 1, some (point - 1)⟩

section Placed

variable {digits : List Char} {point : Int}

theorem place_eq (shown : digits ≠ []) : place digits point = (placed digits point).text := by
  have positive := List.length_pos_iff.mpr shown
  unfold place placed
  dsimp only
  split
  · simp [Literal.text, Literal.exponentPart, pointed]
  next short =>
    split
    next inside =>
      have behind : digits.drop point.toNat ≠ [] := by
        rw [Ne, List.drop_eq_nil_iff]
        omega
      simp [Literal.text, Literal.exponentPart, pointed, behind]
    next =>
      split
      · simp [Literal.text, Literal.exponentPart, pointed, shown]
      · cases digits with
        | nil => contradiction
        | cons first digits =>
            cases digits <;> simp [Literal.text, Literal.exponentPart, pointed, mantissaText]

theorem digits_placed (ascii : ∀ digit ∈ digits, digit.isDigit = true) :
    (placed digits point).Digits := by
  have zeros (count : Nat) : ∀ digit ∈ List.replicate count '0', digit.isDigit = true := by
    intro digit member
    rw [List.eq_of_mem_replicate member]
    decide
  unfold placed Literal.Digits
  split
  · rw [List.append_nil]
    exact List.forall_mem_append.mpr ⟨ascii, zeros _⟩
  · split
    · simpa only [List.take_append_drop] using ascii
    · split
      · exact List.forall_mem_append.mpr ⟨zeros 1, List.forall_mem_append.mpr ⟨zeros _, ascii⟩⟩
      · simpa only [List.take_append_drop] using ascii

theorem placed_of_outside (shown : digits ≠ []) (outside : point ≤ -6 ∨ 21 < point) :
    placed digits point = ⟨digits.take 1, digits.drop 1, some (point - 1)⟩ := by
  have positive := List.length_pos_iff.mpr shown
  have last : positionalDigits = 21 := rfl
  have zeros : leadingZeros = 6 := rfl
  rw [placed, if_neg (by omega), if_neg (by omega), if_neg (by omega)]

theorem exponent_placed (shown : digits ≠ []) :
    (placed digits point).exponent ≠ none ↔ point ≤ -6 ∨ 21 < point := by
  constructor
  · intro scientific
    have last : positionalDigits = 21 := rfl
    have zeros : leadingZeros = 6 := rfl
    unfold placed at scientific
    split at scientific
    · contradiction
    · split at scientific
      · contradiction
      · split at scientific
        · contradiction
        · omega
  · intro outside
    rw [placed_of_outside shown outside]
    exact Option.some_ne_none _

/-- Where the point stands decides about the power of ten. -/
theorem value_placed (shown : digits ≠ []) :
    (placed digits point).value =
      Nat.ofDigitChars 10 digits 0 * 10 ^ (point - digits.length) := by
  have positive := List.length_pos_iff.mpr shown
  have scaled (number : ℚ) {places : Nat} {power result : Int} (same : power - places = result) :
      number / 10 ^ places * 10 ^ power = number * 10 ^ result := by
    rw [← same, zpow_sub₀ (by norm_num), zpow_natCast]
    ring
  unfold placed
  split
  next inside =>
    obtain ⟨places, count⟩ : ∃ places : Nat, point - digits.length = places :=
      ⟨_, (Int.toNat_of_nonneg (by omega)).symm⟩
    simp only [Literal.value, List.append_nil, Nat.ofDigitChars_append,
      Nat.ofDigitChars_replicate_zero, List.length_nil, pow_zero, div_one, Option.getD_none,
      zpow_zero, mul_one]
    rw [count, Int.toNat_natCast, zpow_natCast]
    push_cast
    ring
  next =>
    split
    · simp only [Literal.value, List.take_append_drop, Option.getD_none]
      refine scaled _ ?_
      rw [List.length_drop]
      omega
    · split
      · have zero : Nat.ofDigitChars 10 ['0'] 0 = 0 := by decide
        simp only [Literal.value, Nat.ofDigitChars_append, Nat.ofDigitChars_replicate_zero, zero,
          Nat.mul_zero, Option.getD_none]
        refine scaled _ ?_
        rw [List.length_append, List.length_replicate]
        omega
      · simp only [Literal.value, List.take_append_drop, Option.getD_some]
        refine scaled _ ?_
        rw [List.length_drop]
        omega

theorem head?_take_of_pos {count : Nat} (positive : 0 < count) :
    (digits.take count).head? = digits.head? := by
  cases digits <;> cases count <;> simp at positive ⊢

theorem getLast?_drop_ne {count : Nat} (trailing : digits.getLast? ≠ some '0') :
    (digits.drop count).getLast? ≠ some '0' := by
  rw [List.getLast?_drop]
  split <;> simp [trailing]

theorem positional_placed (significand : Significand digits)
    (inside : ¬(point ≤ -6 ∨ 21 < point)) : Positional (placed digits point).text := by
  obtain ⟨shown, ascii, leading, trailing⟩ := significand
  have last : positionalDigits = 21 := rfl
  have zeros : leadingZeros = 6 := rfl
  have form : (placed digits point).whole ≠ [] ∧
      ((placed digits point).whole.head? = some '0' → (placed digits point).whole = ['0']) ∧
      (placed digits point).fraction.getLast? ≠ some '0' := by
    unfold placed
    split
    · refine ⟨by simp [shown], fun zero => absurd ?_ leading, by simp⟩
      rwa [List.head?_append_of_ne_nil _ shown] at zero
    · split
      · refine ⟨?_, fun zero => absurd ?_ leading, getLast?_drop_ne trailing⟩
        · rw [Ne, List.take_eq_nil_iff, not_or]
          exact ⟨by omega, shown⟩
        · rwa [head?_take_of_pos (by omega)] at zero
      · split
        · refine ⟨by simp, fun _ => rfl, ?_⟩
          rwa [List.getLast?_append_of_ne_nil _ shown]
        · omega
  have exponent : (placed digits point).exponent = none := by
    rw [← not_ne_iff, exponent_placed shown]
    exact inside
  rw [Literal.text, Literal.exponentPart, exponent, List.append_nil]
  exact .intro form.1 (digits_placed ascii) form.2.1 form.2.2

theorem scientific_placed (significand : Significand digits)
    (outside : point ≤ -6 ∨ 21 < point) : Scientific (placed digits point).text := by
  obtain ⟨shown, ascii, leading, trailing⟩ := significand
  obtain ⟨lead, rest, rfl⟩ := List.exists_cons_of_ne_nil shown
  have magnitude : (Nat.toDigits 10 (point - 1).natAbs).head? ≠ some '0' :=
    toDigits_head?_ne (by omega)
  have nonzero : lead ≠ '0' := by
    rintro rfl
    exact leading rfl
  have signed : (if 0 ≤ point - 1 then '+' else '-') = '+' ∨
      (if 0 ≤ point - 1 then '+' else '-') = '-' := by
    split <;> simp
  have fraction : ((lead :: rest).drop 1).getLast? ≠ some '0' := getLast?_drop_ne trailing
  rw [placed_of_outside shown outside]
  exact .intro nonzero
    (List.forall_mem_append.mpr ⟨ascii, Numeral.isDigit_of_mem_toDigits⟩) fraction signed
    Nat.toDigits_ne_nil magnitude

end Placed

theorem exists_leading_digit {text : List Char} (form : Positional text ∨ Scientific text) :
    ∃ first rest, text = first :: rest ∧ first.isDigit = true := by
  rcases form with ⟨shown, digits, -, -⟩ | ⟨-, digits, -, -, -, -⟩
  · obtain ⟨first, rest, rfl⟩ := List.exists_cons_of_ne_nil shown
    exact ⟨first, _, rfl, digits first (by simp)⟩
  · exact ⟨_, _, rfl, digits _ (by simp)⟩

namespace Decimal

variable {decimal : Decimal}

/-- The number that a sign and a decimal stand for. -/
def value (negative : Bool) (decimal : Decimal) : ℚ :=
  if negative then -decimal.magnitude else decimal.magnitude

theorem magnitude_pos (positive : 0 < decimal.coefficient) : 0 < decimal.magnitude :=
  mul_pos (by exact_mod_cast positive) (zpow_pos (by norm_num) _)

theorem abs_value (positive : 0 < decimal.coefficient) (negative : Bool) :
    |decimal.value negative| = decimal.magnitude := by
  have above := magnitude_pos positive
  cases negative with
  | false => exact abs_of_pos above
  | true => exact (abs_neg _).trans (abs_of_pos above)

theorem value_neg_iff (positive : 0 < decimal.coefficient) (negative : Bool) :
    decimal.value negative < 0 ↔ negative = true := by
  have above := magnitude_pos positive
  cases negative with
  | false => simpa [value] using le_of_lt above
  | true => simpa [value] using above

theorem magnitude_lt_iff (positive : 0 < decimal.coefficient) (power : Int) :
    decimal.magnitude < 10 ^ power ↔ decimal.point ≤ power := by
  obtain ⟨lower, upper⟩ := magnitude_bounds positive
  constructor
  · intro small
    have order := (zpow_lt_zpow_iff_right₀ (by norm_num : (1 : ℚ) < 10)).mp (lower.trans_lt small)
    omega
  · intro small
    exact upper.trans_le ((zpow_le_zpow_iff_right₀ (by norm_num)).mpr small)

theorem exponent_le_of_magnitude_eq {other : Decimal} (nonzero : decimal.coefficient % 10 ≠ 0)
    (same : decimal.magnitude = other.magnitude) : other.exponent ≤ decimal.exponent := by
  rcases Int.lt_or_le decimal.exponent other.exponent with coarser | finer
  · obtain ⟨zeros, places⟩ : ∃ zeros : Nat, other.exponent = decimal.exponent + (zeros + 1) :=
      ⟨(other.exponent - decimal.exponent - 1).toNat, by omega⟩
    have power : (10 : ℚ) ^ decimal.exponent ≠ 0 := zpow_ne_zero _ (by norm_num)
    have split : (10 : ℚ) ^ other.exponent = 10 ^ (zeros + 1) * 10 ^ decimal.exponent := by
      rw [places, zpow_add₀ (by norm_num), mul_comm]
      norm_cast
    rw [magnitude, magnitude, split, ← mul_assoc] at same
    have digits := mul_right_cancel₀ power same
    have whole : decimal.coefficient = other.coefficient * 10 ^ (zeros + 1) := by
      exact_mod_cast digits
    rw [pow_succ, ← mul_assoc] at whole
    omega
  · exact finer

/-- A number is a decimal without zeros at its end in one way only. -/
theorem eq_of_magnitude_eq {other : Decimal} (nonzero : decimal.coefficient % 10 ≠ 0)
    (otherNonzero : other.coefficient % 10 ≠ 0) (same : decimal.magnitude = other.magnitude) :
    decimal = other := by
  have exponents := Int.le_antisymm (exponent_le_of_magnitude_eq otherNonzero same.symm)
    (exponent_le_of_magnitude_eq nonzero same)
  have power : (10 : ℚ) ^ decimal.exponent ≠ 0 := zpow_ne_zero _ (by norm_num)
  rw [magnitude, magnitude, ← exponents] at same
  have coefficients : decimal.coefficient = other.coefficient := by
    exact_mod_cast mul_right_cancel₀ power same
  cases decimal
  cases other
  rw [Decimal.mk.injEq]
  exact ⟨coefficients, exponents⟩

/-- The sign and the magnitude can be read off the number. -/
theorem eq_of_value_eq {other : Decimal} {negative otherNegative : Bool}
    (nonzero : decimal.coefficient % 10 ≠ 0) (otherNonzero : other.coefficient % 10 ≠ 0)
    (same : other.value otherNegative = decimal.value negative) :
    otherNegative = negative ∧ other = decimal := by
  have magnitudes := congrArg (|·|) same
  rw [abs_value (by omega), abs_value (by omega)] at magnitudes
  refine ⟨Bool.eq_iff_iff.mpr ?_, eq_of_magnitude_eq otherNonzero nonzero magnitudes⟩
  rw [← other.value_neg_iff (by omega), ← decimal.value_neg_iff (by omega), same]

end Decimal

section Layout

variable {negative : Bool} {decimal : Decimal}

theorem layout_eq (negative : Bool) (decimal : Decimal) :
    layout negative decimal = (if negative then ['-'] else []) ++
      (placed (Nat.toDigits 10 decimal.coefficient) decimal.point).text := by
  rw [layout, ← place_eq Nat.toDigits_ne_nil]
  rfl

theorem e_mem_layout_iff :
    'e' ∈ layout negative decimal ↔ decimal.point ≤ -6 ∨ 21 < decimal.point := by
  have sign : 'e' ∉ if negative then ['-'] else [] := by cases negative <;> decide
  rw [layout_eq, List.mem_append, or_iff_right sign,
    Literal.e_mem_text_iff (digits_placed Numeral.isDigit_of_mem_toDigits),
    exponent_placed Nat.toDigits_ne_nil]

theorem form_layout (nonzero : decimal.coefficient % 10 ≠ 0) :
    if decimal.point ≤ -6 ∨ 21 < decimal.point then
      Scientific (placed (Nat.toDigits 10 decimal.coefficient) decimal.point).text
    else Positional (placed (Nat.toDigits 10 decimal.coefficient) decimal.point).text := by
  have significand := significand_toDigits nonzero
  split
  next outside => exact scientific_placed significand outside
  next inside => exact positional_placed significand inside

theorem unsignedValue_placed (decimal : Decimal) :
    unsignedValue (placed (Nat.toDigits 10 decimal.coefficient) decimal.point).text =
      decimal.magnitude := by
  have exponent : decimal.point - (Nat.toDigits 10 decimal.coefficient).length =
      decimal.exponent := by
    rw [Decimal.point]
    omega
  rw [Literal.unsignedValue_text (digits_placed Numeral.isDigit_of_mem_toDigits),
    value_placed Nat.toDigits_ne_nil, exponent, Nat.ofDigitChars_toDigits (by decide) (by decide)]
  rfl

theorem literalValue_layout (nonzero : decimal.coefficient % 10 ≠ 0) :
    literalValue (layout negative decimal) = decimal.value negative := by
  have value := unsignedValue_placed decimal
  rw [layout_eq]
  cases negative with
  | true => exact congrArg Neg.neg value
  | false =>
      have form := form_layout nonzero
      have leads : ∃ first rest,
          (placed (Nat.toDigits 10 decimal.coefficient) decimal.point).text = first :: rest ∧
            first.isDigit = true := by
        split at form
        · exact exists_leading_digit (.inr form)
        · exact exists_leading_digit (.inl form)
      obtain ⟨first, rest, text, digit⟩ := leads
      rw [text] at value ⊢
      change literalValue (first :: rest) = decimal.magnitude
      unfold literalValue
      split
      next minus =>
        cases minus
        contradiction
      next => exact value

end Layout

/-- What is written for a double is the layout of its shortest decimal, which is read as that double
and does not end in zero. The layout of a decimal that does not end in zero denotes its number; it
has an exponent exactly below 1e-6 and from 1e21 on, is without needless zeros in either form, and
is the text of no other decimal. -/
theorem text_denotes :
    (∀ (number : Float) (sign : Sign) (mantissa : Nat) (exponent : Int) (positive : 0 < mantissa),
      number.toModel.unpack = .finite sign mantissa exponent positive →
      IsShortest mantissa exponent (shortest mantissa exponent) ∧
      (shortest mantissa exponent).coefficient % 10 ≠ 0 ∧
      text number = String.ofList (layout (sign == .negative) (shortest mantissa exponent))) ∧
    ∀ (negative : Bool) (decimal : Decimal), decimal.coefficient % 10 ≠ 0 →
      literalValue (layout negative decimal) = decimal.value negative ∧
      ('e' ∈ layout negative decimal ↔
        |decimal.value negative| < 1 / 10 ^ 6 ∨ 10 ^ 21 ≤ |decimal.value negative|) ∧
      (∃ unsigned, layout negative decimal = (if negative then ['-'] else []) ++ unsigned ∧
        if 'e' ∈ layout negative decimal then Scientific unsigned else Positional unsigned) ∧
      ∀ (otherNegative : Bool) (other : Decimal), other.coefficient % 10 ≠ 0 →
        layout otherNegative other = layout negative decimal →
          otherNegative = negative ∧ other = decimal := by
  constructor
  · intro number sign mantissa exponent positive unpacked
    have found := isShortest_shortest unpacked
    refine ⟨found, found.coefficient_ne, ?_⟩
    rw [text, unpacked]
  · intro negative decimal nonzero
    refine ⟨literalValue_layout nonzero, ?_, ⟨_, layout_eq negative decimal, ?_⟩, ?_⟩
    · have small := decimal.magnitude_lt_iff (by omega) (-6)
      have large := decimal.magnitude_lt_iff (by omega) 21
      rw [zpow_neg, ← one_div] at small
      rw [e_mem_layout_iff, Decimal.abs_value (by omega), ← not_le, ← small, ← large, not_lt]
      rfl
    · simp only [e_mem_layout_iff]
      exact form_layout nonzero
    · intro otherNegative other otherNonzero same
      have values := congrArg literalValue same
      rw [literalValue_layout nonzero, literalValue_layout otherNonzero] at values
      exact Decimal.eq_of_value_eq nonzero otherNonzero values

theorem text_denotes_half : text 0.5 = "0.5" ∧
    layout true ⟨15, -10⟩ = "-1.5e-9".toList ∧
    literalValue "-1.5e-9".toList = Decimal.value true ⟨15, -10⟩ ∧
    |Decimal.value true ⟨15, -10⟩| < 1 / 10 ^ 6 := by
  obtain ⟨-, -, half⟩ := text_denotes.1 0.5 .positive (2 ^ 52) (-53) (by decide) rfl
  have digits : shortest (2 ^ 52) (-53) = ⟨5, -1⟩ := by decide +kernel
  have small : layout true ⟨15, -10⟩ = "-1.5e-9".toList := by decide
  obtain ⟨value, exponent, -, -⟩ := text_denotes.2 true ⟨15, -10⟩ (by decide)
  rw [small] at value exponent
  refine ⟨?_, small, value, (exponent.mp (by decide)).resolve_right ?_⟩
  · rw [half, digits]
    decide
  · norm_num [Decimal.abs_value, Decimal.magnitude]

end DateCalculator.Number
