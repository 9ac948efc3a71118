import DateCalculator.DateTime.Printer
import DateCalculator.DateTime.Reader
import DateCalculator.Proofs.NumeralText

/-!
Moments read back from their text. The text has a field of fixed width for each part of the moment,
and the reader finds every field where the printer has put it.
-/

namespace DateCalculator

theorem Text.trim_eq_self {droppable : Char → Bool} {text : List Char}
    (kept : ∀ character ∈ text, droppable character = false) : trim droppable text = text := by
  have start {run : List Char} (kept : ∀ character ∈ run, droppable character = false) :
      run.dropWhile droppable = run := by
    cases run with
    | nil => rfl
    | cons first run =>
        exact List.dropWhile_cons_of_neg (by rw [kept first List.mem_cons_self]; decide)
  rw [trim, start kept, start fun character member => kept character (List.mem_reverse.mp member),
    List.reverse_reverse]

namespace Numeral

variable {digits : List Char}

def asciiDigits : List Char := ['0', '1', '2', '3', '4', '5', '6', '7', '8', '9']

theorem mem_asciiDigits {character : Char} (digit : character.isDigit = true) :
    character ∈ asciiDigits := by
  obtain ⟨lower, upper⟩ := Char.isDigit_iff_toNat.mp digit
  change 48 ≤ character.toNat at lower
  change character.toNat ≤ 57 at upper
  have code : character.toNat = 48 ∨ character.toNat = 49 ∨ character.toNat = 50 ∨
      character.toNat = 51 ∨ character.toNat = 52 ∨ character.toNat = 53 ∨
      character.toNat = 54 ∨ character.toNat = 55 ∨ character.toNat = 56 ∨
      character.toNat = 57 := by omega
  rcases code with code | code | code | code | code | code | code | code | code | code <;>
    rw [← Char.ofNat_toNat character, code] <;> decide

theorem take?_padded {width value : Nat} (positive : 0 < width) (bound : value < Nat.pow 10 width)
    (rest : List Char) : take? width (padded width value ++ rest) = some (value, rest) := by
  have length := length_padded positive bound
  have taken : (padded width value ++ rest).take width = padded width value :=
    List.take_left' length
  have dropped : (padded width value ++ rest).drop width = rest := List.drop_left' length
  have digits : (padded width value).all Char.isDigit = true :=
    List.all_eq_true.mpr isDigit_of_mem_padded
  rw [take?, taken, dropped, if_pos ⟨length, digits⟩,
    ← value_eq_ofDigitChars isDigit_of_mem_padded, value_padded]

theorem ofDigitChars_fraction {width value : Nat} (positive : 0 < width)
    (bound : value < Nat.pow 10 width) :
    Nat.ofDigitChars 10 ((fraction width value ++ List.replicate width '0').take width) 0 =
      value := by
  rw [take_fraction positive bound, ← value_eq_ofDigitChars isDigit_of_mem_padded, value_padded]

theorem fraction_ne_nil {width value : Nat} (nonzero : value ≠ 0) : fraction width value ≠ [] := by
  intro nothing
  obtain ⟨count, whole⟩ := exists_withoutTrailingZeros (padded width value)
  have zero : Nat.ofDigitChars 10 (List.replicate count '0') 0 = value := by
    rw [← List.nil_append (List.replicate count '0'), ← nothing, fraction, whole,
      ← value_eq_ofDigitChars isDigit_of_mem_padded, value_padded]
  rw [Nat.ofDigitChars_replicate_zero] at zero
  exact nonzero (zero.symm.trans (Nat.mul_zero _))

theorem isGrouped_of_isDigit (nonempty : digits ≠ [])
    (ascii : ∀ digit ∈ digits, digit.isDigit = true) : isGrouped digits = true := by
  fun_induction isGrouped digits with
  | case1 => contradiction
  | case2 last => exact Text.isDecimalDigit_of_isDigit (ascii last (by simp))
  | case3 first rest ih => exact absurd (ascii '_' (by simp)) (by decide)
  | case4 first rest several _ ih =>
      rw [Text.isDecimalDigit_of_isDigit (ascii first List.mem_cons_self),
        ih several fun digit member => ascii digit (List.mem_cons_of_mem first member)]
      rfl

/-- A run of digits is read as its value, if it is not too long. -/
theorem readInteger?_of_isDigit (nonempty : digits ≠ [])
    (ascii : ∀ digit ∈ digits, digit.isDigit = true) (short : digits.length ≤ digitLimit) :
    readInteger? digits = some (value digits : Int) := by
  have unpadded : ∀ digit ∈ digits, isPadding digit = false := by
    have checked : asciiDigits.all (fun digit => !isPadding digit) = true := by decide
    intro digit member
    simpa using List.all_eq_true.mp checked digit (mem_asciiDigits (ascii digit member))
  have joined : digits.filter (· ≠ '_') = digits := by
    refine List.filter_eq_self.mpr fun digit member => decide_eq_true fun same => ?_
    have underscore := ascii digit member
    rw [same] at underscore
    contradiction
  have unsigned : (if isGrouped digits then value? (digits.filter (· ≠ '_')) else none) =
      some (value digits) := by
    rw [if_pos (isGrouped_of_isDigit nonempty ascii), joined, value?, if_pos short]
  rw [readInteger?, Text.trim_eq_self unpadded]
  dsimp only
  split
  · exact absurd (ascii '-' List.mem_cons_self) (by decide)
  · exact absurd (ascii '+' List.mem_cons_self) (by decide)
  · rw [unsigned]
    rfl

end Numeral

namespace DateTime

/-- The digits and marks that the text of a moment is made of. -/
def textCharacters : List Char := Numeral.asciiDigits ++ ['-', ':', '.', 'T']

theorem mem_textCharacters_of_isDigit {character : Char} (digit : character.isDigit = true) :
    character ∈ textCharacters :=
  List.mem_append_left _ (Numeral.mem_asciiDigits digit)

theorem mem_textCharacters_of_plain {character mark : Char} (known : mark ∈ textCharacters)
    (plain : character.isDigit = true ∨ character = mark) : character ∈ textCharacters := by
  rcases plain with digit | rfl
  · exact mem_textCharacters_of_isDigit digit
  · exact known

theorem splitAtT_append {plain : List Char} (unmarked : 'T' ∉ plain) (rest : List Char) :
    splitAtT (plain ++ rest) = (plain ++ (splitAtT rest).1, (splitAtT rest).2) := by
  induction plain with
  | nil => rfl
  | cons first plain ih =>
      have other : first ≠ 'T' := (List.ne_of_not_mem_cons unmarked).symm
      rw [List.cons_append, splitAtT.eq_3 _ _ other, ih (List.not_mem_of_not_mem_cons unmarked)]
      rfl

theorem splitAtColons_self {field : List Char} (unmarked : ':' ∉ field) :
    splitAtColons field = [field] := by
  induction field with
  | nil => rfl
  | cons first field ih =>
      have other : first ≠ ':' := (List.ne_of_not_mem_cons unmarked).symm
      rw [splitAtColons.eq_3 _ _ other, ih (List.not_mem_of_not_mem_cons unmarked)]

theorem splitAtColons_append {field : List Char} (unmarked : ':' ∉ field) (rest : List Char) :
    splitAtColons (field ++ ':' :: rest) = field :: splitAtColons rest := by
  induction field with
  | nil => rfl
  | cons first field ih =>
      have other : first ≠ ':' := (List.ne_of_not_mem_cons unmarked).symm
      rw [List.cons_append, splitAtColons.eq_3 _ _ other,
        ih (List.not_mem_of_not_mem_cons unmarked)]

theorem flatMap_capitals {text : List Char}
    (plain : ∀ character ∈ text, character ∈ textCharacters) :
    text.flatMap capitals = text := by
  have checked : textCharacters.all (fun character => capitals character = [character]) = true := by
    decide
  induction text with
  | nil => rfl
  | cons first text ih =>
      have same := List.all_eq_true.mp checked first (plain first List.mem_cons_self)
      rw [List.flatMap_cons, of_decide_eq_true same,
        ih fun character member => plain character (List.mem_cons_of_mem first member)]
      rfl

theorem isAscii_of_plain {text : List Char}
    (plain : ∀ character ∈ text, character ∈ textCharacters) : isAscii text = true := by
  have checked : textCharacters.all (fun character => character.toNat < 128) = true := by decide
  exact List.all_eq_true.mpr fun character member =>
    List.all_eq_true.mp checked character (plain character member)

theorem twoWide_eq_self {field : List Char} (wide : 2 ≤ field.length) : twoWide field = field := by
  rw [twoWide, Nat.sub_eq_zero_of_le wide]
  rfl

section Characters

variable (moment : DateTime)

def dateCharacters : List Char :=
  Numeral.padded 4 moment.date.year.toNat ++ '-' :: Numeral.padded 2 moment.date.month ++
    '-' :: Numeral.padded 2 moment.date.day

def secondCharacters : List Char :=
  Numeral.padded 2 moment.second ++
    if moment.microsecond = 0 then [] else '.' :: Numeral.fraction 6 moment.microsecond

theorem characters_eq : moment.characters = moment.dateCharacters ++ 'T' ::
    (Numeral.padded 2 moment.hour ++ ':' ::
      (Numeral.padded 2 moment.minute ++ ':' :: moment.secondCharacters)) := by
  simp only [characters, dateCharacters, secondCharacters, List.append_assoc, List.cons_append]

theorem bounds : moment.hour < 24 ∧ moment.minute < 60 ∧ moment.second < 60 ∧
    moment.microsecond < 1000000 := by
  have inside := moment.sinceMidnight_lt
  simp only [microsecondsPerDay] at inside
  simp only [hour, minute, second, microsecond]
  omega

theorem timeOfDay?_eq : timeOfDay? moment.hour moment.minute moment.second moment.microsecond =
    some moment.sinceMidnight := by
  rw [timeOfDay?, if_pos moment.bounds]
  refine congrArg some ?_
  simp only [hour, minute, second, microsecond]
  omega

theorem of?_eq_self : of? moment.date moment.sinceMidnight = some moment :=
  dif_pos ⟨⟨moment.year_pos, moment.year_le⟩, moment.sinceMidnight_lt⟩

theorem dateBounds : moment.date.year.toNat < Nat.pow 10 4 ∧ moment.date.month < Nat.pow 10 2 ∧
    moment.date.day < Nat.pow 10 2 := by
  have year := moment.year_le
  have month := moment.date.month_le
  have day := moment.date.day_le
  have longest := (Calendar.monthLength_bounds moment.date.year moment.date.month).2
  have powers : Nat.pow 10 4 = 10000 ∧ Nat.pow 10 2 = 100 := by decide
  omega

theorem timeBounds : moment.hour < Nat.pow 10 2 ∧ moment.minute < Nat.pow 10 2 ∧
    moment.second < Nat.pow 10 2 ∧ moment.microsecond < Nat.pow 10 6 := by
  obtain ⟨hour, minute, second, microsecond⟩ := moment.bounds
  have powers : Nat.pow 10 2 = 100 ∧ Nat.pow 10 6 = 1000000 := by decide
  omega

theorem mem_dateCharacters : ∀ character ∈ moment.dateCharacters,
    character.isDigit = true ∨ character = '-' := by
  intro character member
  simp only [dateCharacters, List.mem_append, List.mem_cons] at member
  rcases member with (digit | rfl | digit) | rfl | digit
  · exact .inl (Numeral.isDigit_of_mem_padded _ digit)
  · exact .inr rfl
  · exact .inl (Numeral.isDigit_of_mem_padded _ digit)
  · exact .inr rfl
  · exact .inl (Numeral.isDigit_of_mem_padded _ digit)

theorem mem_secondCharacters : ∀ character ∈ moment.secondCharacters,
    character.isDigit = true ∨ character = '.' := by
  intro character member
  rw [secondCharacters] at member
  rcases List.mem_append.mp member with digit | fraction
  · exact .inl (Numeral.isDigit_of_mem_padded _ digit)
  · split at fraction
    · contradiction
    · rcases List.mem_cons.mp fraction with rfl | digit
      · exact .inr rfl
      · exact .inl (Numeral.isDigit_of_mem_padded _
          (Numeral.mem_of_mem_withoutTrailingZeros digit))

theorem mem_characters : ∀ character ∈ moment.characters,
    character ∈ textCharacters := by
  have digits {width value : Nat} {character : Char}
      (member : character ∈ Numeral.padded width value) : character ∈ textCharacters :=
    mem_textCharacters_of_isDigit (Numeral.isDigit_of_mem_padded character member)
  intro character member
  simp only [characters_eq, List.mem_append, List.mem_cons] at member
  rcases member with date | rfl | hour | rfl | minute | rfl | second
  · exact mem_textCharacters_of_plain (by decide) (moment.mem_dateCharacters character date)
  · decide
  · exact digits hour
  · decide
  · exact digits minute
  · decide
  · exact mem_textCharacters_of_plain (by decide) (moment.mem_secondCharacters character second)

theorem readDate_dateCharacters : readDate moment.dateCharacters = .ok moment.date := by
  obtain ⟨yearBound, monthBound, dayBound⟩ := moment.dateBounds
  have day := Numeral.take?_padded (by decide) dayBound []
  rw [List.append_nil] at day
  have fields : calendarFields? moment.dateCharacters =
      some ((moment.date.year.toNat, moment.date.month, moment.date.day), []) := by
    simp only [calendarFields?, dateCharacters, List.append_assoc, List.cons_append,
      Numeral.take?_padded (by decide) yearBound, Numeral.take?_padded (by decide) monthBound, day,
      Option.map_some]
  have positive : 0 < moment.date.year.toNat := by
    have year := moment.year_pos
    omega
  have year : (moment.date.year.toNat : Int) = moment.date.year := by omega
  have valid : dateOf? moment.date.year.toNat moment.date.month moment.date.day =
      some moment.date := by
    rw [dateOf?, if_pos positive, year]
    exact dif_pos ⟨⟨moment.date.month_pos, moment.date.month_le⟩, moment.date.day_pos,
      moment.date.day_le⟩
  simp only [readDate, fields, valid]
  rfl

theorem seconds?_secondCharacters :
    seconds? moment.secondCharacters = some (moment.second, moment.microsecond) := by
  obtain ⟨-, -, secondBound, microsecondBound⟩ := moment.timeBounds
  rw [secondCharacters, seconds?, Numeral.take?_padded (by decide) secondBound]
  by_cases none : moment.microsecond = 0
  · rw [if_pos none, none]
  · have digits : (Numeral.fraction 6 moment.microsecond).all Char.isDigit = true :=
      List.all_eq_true.mpr fun digit member =>
        Numeral.isDigit_of_mem_padded digit (Numeral.mem_of_mem_withoutTrailingZeros member)
    rw [if_neg none]
    dsimp only
    rw [if_pos ⟨.inl rfl, Numeral.fraction_ne_nil none, digits⟩,
      Numeral.ofDigitChars_fraction (by decide) microsecondBound]

theorem twoDigits?_padded {value : Nat} (bound : value < Nat.pow 10 2) :
    twoDigits? (Numeral.padded 2 value) = some value := by
  have field := Numeral.take?_padded (by decide) bound []
  rw [List.append_nil] at field
  rw [twoDigits?, field]

theorem readTime?_eq : readTime? (Numeral.padded 2 moment.hour) (Numeral.padded 2 moment.minute)
    moment.secondCharacters = some moment.sinceMidnight := by
  obtain ⟨hourBound, minuteBound, -, -⟩ := moment.timeBounds
  rw [readTime?, twoDigits?_padded hourBound, twoDigits?_padded minuteBound,
    seconds?_secondCharacters]
  exact moment.timeOfDay?_eq

theorem fields_eq :
    splitAtT moment.characters = (moment.dateCharacters,
      Numeral.padded 2 moment.hour ++ ':' ::
        (Numeral.padded 2 moment.minute ++ ':' :: moment.secondCharacters)) ∧
    (splitAtColons (Numeral.padded 2 moment.hour ++ ':' ::
      (Numeral.padded 2 moment.minute ++ ':' :: moment.secondCharacters))).map twoWide =
      [Numeral.padded 2 moment.hour, Numeral.padded 2 moment.minute, moment.secondCharacters] := by
  obtain ⟨hourBound, minuteBound, secondBound, -⟩ := moment.timeBounds
  have date : 'T' ∉ moment.dateCharacters := fun member => by
    rcases moment.mem_dateCharacters _ member with digit | same <;> contradiction
  have numeral (value : Nat) : ':' ∉ Numeral.padded 2 value := fun member =>
    absurd (Numeral.isDigit_of_mem_padded _ member) (by decide)
  have second : ':' ∉ moment.secondCharacters := fun member => by
    rcases moment.mem_secondCharacters _ member with digit | same <;> contradiction
  have wide {value : Nat} (bound : value < Nat.pow 10 2) : 2 ≤ (Numeral.padded 2 value).length :=
    Nat.le_of_eq (Numeral.length_padded (by decide) bound).symm
  have secondWide : 2 ≤ moment.secondCharacters.length := by
    rw [secondCharacters, List.length_append]
    exact Nat.le_trans (wide secondBound) (Nat.le_add_right _ _)
  rw [characters_eq, splitAtT_append date, splitAtT.eq_2, splitAtColons_append (numeral _),
    splitAtColons_append (numeral _), splitAtColons_self second]
  simp only [List.append_nil, List.map_cons, List.map_nil, twoWide_eq_self (wide hourBound),
    twoWide_eq_self (wide minuteBound), twoWide_eq_self secondWide, and_self]

theorem readInteger?_hour : Numeral.readInteger? (Numeral.padded 2 moment.hour) =
    some (moment.hour : Int) := by
  have length := Numeral.length_padded (by decide) moment.timeBounds.1
  have nonempty : Numeral.padded 2 moment.hour ≠ [] := by
    intro nothing
    rw [nothing] at length
    contradiction
  have short : (Numeral.padded 2 moment.hour).length ≤ Numeral.digitLimit := by
    rw [length]
    decide
  rw [Numeral.readInteger?_of_isDigit nonempty Numeral.isDigit_of_mem_padded short,
    Numeral.value_padded]

end Characters

/-- The text of a moment is read back as the moment, fraction included. -/
theorem read_text (moment : DateTime) : read moment.text = .ok moment := by
  obtain ⟨parted, fields⟩ := moment.fields_eq
  have plain := moment.mem_characters
  have hour : ¬ 23 < (moment.hour : Int) := by
    have bound := moment.bounds.1
    omega
  have ascii : [moment.dateCharacters, Numeral.padded 2 moment.hour,
      Numeral.padded 2 moment.minute, moment.secondCharacters].all isAscii = true := by
    refine List.all_eq_true.mpr fun field among => isAscii_of_plain fun character member => ?_
    refine plain character ?_
    rw [characters_eq]
    simp only [List.mem_cons, List.not_mem_nil, or_false] at among
    rcases among with rfl | rfl | rfl | rfl <;> simp [member]
  rw [read, text, String.toList_ofList, flatMap_capitals plain]
  simp only [parted, fields, List.getD_cons_zero, List.getD_cons_succ, readInteger?_hour, hour,
    if_false, ascii, Bool.not_true, Bool.false_eq_true, readDate_dateCharacters, readTime?_eq,
    Option.bind_some, of?_eq_self]

end DateTime

end DateCalculator
