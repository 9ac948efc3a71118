import DateCalculator.Proofs.DateTimeText
import DateCalculator.Proofs.ShiftDirection
import DateCalculator.Value

/-!
The order of texts is the order of moments. Fields of one width are ordered as their numbers, so the
first field in which two moments differ decides on both sides. A fraction is written without its
trailing zeros, which changes the lengths of two fractions but not their order.
-/

namespace DateCalculator

namespace Numeral

theorem digitValue_lt_ten {digit : Char} (ascii : digit.isDigit = true) :
    digit.toNat - '0'.toNat < 10 := by
  have upper := (Char.isDigit_iff_toNat.mp ascii).2
  change digit.toNat ≤ 57 at upper
  change digit.toNat - 48 < 10
  omega

theorem digitValue_lt {low high : Char} (ascii : low.isDigit = true) (ordered : low < high) :
    low.toNat - '0'.toNat < high.toNat - '0'.toNat := by
  have lower := (Char.isDigit_iff_toNat.mp ascii).1
  have codes : low.toNat < high.toNat := ordered
  change 48 ≤ low.toNat at lower
  change low.toNat - 48 < high.toNat - 48
  omega

/-- Of two numerals of one length the one that comes first is smaller, behind equal numbers; behind
different numbers their digits do not matter. -/
theorem ofDigitChars_lt {low high : List Char} (ascii : ∀ digit ∈ low, digit.isDigit = true)
    (wide : low.length = high.length) {first second : Nat}
    (ordered : first < second ∨ first = second ∧ low < high) :
    Nat.ofDigitChars 10 low first < Nat.ofDigitChars 10 high second := by
  induction low generalizing high first second with
  | nil =>
      cases List.length_eq_zero_iff.mp wide.symm
      rcases ordered with smaller | ⟨-, smaller⟩
      · exact smaller
      · exact absurd smaller (List.lt_irrefl [])
  | cons lead low ih =>
      obtain ⟨other, high, rfl⟩ := List.exists_cons_of_length_eq_add_one wide.symm
      have digit := ascii lead List.mem_cons_self
      have below := digitValue_lt_ten digit
      rw [Nat.ofDigitChars_cons, Nat.ofDigitChars_cons]
      refine ih (fun digit member => ascii digit (List.mem_cons_of_mem lead member))
        (Nat.succ.inj wide) ?_
      rcases ordered with smaller | ⟨rfl, earlier⟩
      · exact .inl (by omega)
      · rcases List.cons_lt_cons_iff.mp earlier with leads | ⟨rfl, rest⟩
        · have smaller := digitValue_lt digit leads
          exact .inl (by omega)
        · exact .inr ⟨rfl, rest⟩

theorem padded_lt_padded {width low high : Nat} (positive : 0 < width)
    (bound : high < Nat.pow 10 width) (ordered : low < high) :
    padded width low < padded width high := by
  have wide := length_padded positive (Nat.lt_trans ordered bound)
  have otherWide := length_padded positive bound
  rcases Std.lt_trichotomy (padded width low) (padded width high) with before | same | after
  · exact before
  · have values := congrArg value same
    rw [value_padded, value_padded] at values
    omega
  · have values := ofDigitChars_lt isDigit_of_mem_padded (otherWide.trans wide.symm)
      (.inr ⟨rfl, after⟩ : 0 < 0 ∨ 0 = 0 ∧ padded width high < padded width low)
    rw [← value_eq_ofDigitChars isDigit_of_mem_padded,
      ← value_eq_ofDigitChars isDigit_of_mem_padded, value_padded, value_padded] at values
    omega

theorem withoutTrailingZeros_cons (digit : Char) (digits : List Char) :
    withoutTrailingZeros (digit :: digits) =
      if withoutTrailingZeros digits = [] ∧ digit = '0' then []
      else digit :: withoutTrailingZeros digits := by
  rw [withoutTrailingZeros, withoutTrailingZeros, List.reverse_cons, List.dropWhile_append]
  by_cases nothing : digits.reverse.dropWhile (· = '0') = []
  · rw [nothing]
    by_cases zero : digit = '0' <;> simp [zero]
  · simp [nothing]

/-- Trailing zeros do not tell which of two fractions of one length is the greater. -/
theorem withoutTrailingZeros_lt {low high : List Char}
    (ascii : ∀ digit ∈ low, digit.isDigit = true) (wide : low.length = high.length)
    (ordered : low < high) : withoutTrailingZeros low < withoutTrailingZeros high := by
  induction low generalizing high with
  | nil =>
      cases List.length_eq_zero_iff.mp wide.symm
      exact absurd ordered (List.lt_irrefl [])
  | cons lead low ih =>
      obtain ⟨other, high, rfl⟩ := List.exists_cons_of_length_eq_add_one wide.symm
      have compared : ¬(withoutTrailingZeros high = [] ∧ other = '0') ∧
          lead :: withoutTrailingZeros low < other :: withoutTrailingZeros high := by
        rcases List.cons_lt_cons_iff.mp ordered with leads | ⟨rfl, rest⟩
        · refine ⟨fun ⟨_, zero⟩ => ?_, List.cons_lt_cons_iff.mpr (.inl leads)⟩
          have smaller := digitValue_lt (ascii lead List.mem_cons_self) leads
          rw [zero] at smaller
          exact absurd smaller (Nat.not_lt_zero _)
        · have shorter := ih (fun digit member => ascii digit (List.mem_cons_of_mem lead member))
            (Nat.succ.inj wide) rest
          refine ⟨fun ⟨nothing, _⟩ => ?_, List.cons_lt_cons_iff.mpr (.inr ⟨rfl, shorter⟩)⟩
          rw [nothing] at shorter
          exact absurd shorter (List.not_lt_nil _)
      obtain ⟨kept, before⟩ := compared
      rw [withoutTrailingZeros_cons other, if_neg kept, withoutTrailingZeros_cons]
      split
      · exact List.nil_lt_cons _ _
      · exact before

theorem fraction_lt_fraction {width low high : Nat} (positive : 0 < width)
    (bound : high < Nat.pow 10 width) (ordered : low < high) :
    fraction width low < fraction width high :=
  withoutTrailingZeros_lt isDigit_of_mem_padded
    ((length_padded positive (Nat.lt_trans ordered bound)).trans
      (length_padded positive bound).symm)
    (padded_lt_padded positive bound ordered)

end Numeral

theorem Text.append_lt_append {first second : List Char} (wide : first.length = second.length)
    (ordered : first < second) (rest others : List Char) : first ++ rest < second ++ others := by
  induction first generalizing second with
  | nil =>
      cases List.length_eq_zero_iff.mp wide.symm
      exact absurd ordered (List.lt_irrefl [])
  | cons lead first ih =>
      obtain ⟨other, second, rfl⟩ := List.exists_cons_of_length_eq_add_one wide.symm
      rcases List.cons_lt_cons_iff.mp ordered with leads | ⟨rfl, earlier⟩
      · exact List.cons_lt_cons_iff.mpr (.inl leads)
      · exact List.cons_lt_cons_iff.mpr (.inr ⟨rfl, ih (Nat.succ.inj wide) earlier⟩)

/-- A field decides the order of two texts, unless it is the same in both. -/
theorem Numeral.padded_append_lt {width low high : Nat} (positive : 0 < width)
    (bound : high < Nat.pow 10 width) {rest others : List Char}
    (ordered : low < high ∨ low = high ∧ rest < others) :
    padded width low ++ rest < padded width high ++ others := by
  rcases ordered with smaller | ⟨rfl, later⟩
  · exact Text.append_lt_append
      ((length_padded positive (Nat.lt_trans smaller bound)).trans
        (length_padded positive bound).symm)
      (padded_lt_padded positive bound smaller) rest others
  · exact List.append_left_lt later

namespace DateTime

variable {earlier later : DateTime}

/-- The fields of the text, the most significant one first. -/
def fields (moment : DateTime) : List Nat :=
  [moment.date.year.toNat, moment.date.month, moment.date.day, moment.hour, moment.minute,
    moment.second, moment.microsecond]

theorem fields_lt_of_instant_lt (ordered : earlier.instant < later.instant) :
    earlier.fields < later.fields := by
  have inside := earlier.sinceMidnight_lt
  have otherInside := later.sinceMidnight_lt
  have yearPos := earlier.year_pos
  have monthPos := earlier.date.month_pos
  have monthLe := earlier.date.month_le
  have otherMonthPos := later.date.month_pos
  have otherMonthLe := later.date.month_le
  unfold instant at ordered
  unfold microsecondsPerDay at ordered inside otherInside
  simp only [fields, List.cons_lt_cons_iff]
  -- The first field that differs is one of the time of day if the days are the same.
  by_cases days : earlier.date.dayNumber = later.date.dayNumber
  · have date : earlier.date = later.date := by
      rw [← Date.ofDayNumber_dayNumber earlier.date, days, Date.ofDayNumber_dayNumber]
    have within : earlier.sinceMidnight < later.sinceMidnight := by omega
    rw [date]
    refine .inr ⟨rfl, .inr ⟨rfl, .inr ⟨rfl, ?_⟩⟩⟩
    simp only [hour, minute, second, microsecond, List.lt_irrefl, and_false, or_false]
    omega
  · have dayNumbers : earlier.date.dayNumber < later.date.dayNumber := by omega
    have months : earlier.date.monthIndex ≤ later.date.monthIndex := by
      by_contra after
      have back := Date.dayNumber_lt_of_monthIndex_lt (Int.lt_of_not_ge after)
      omega
    unfold Date.monthIndex at months
    by_cases sameMonth : earlier.date.year = later.date.year ∧
        earlier.date.month = later.date.month
    · obtain ⟨year, month⟩ := sameMonth
      have day : earlier.date.day < later.date.day := by
        simp only [Date.dayNumber, Date.dayOfYear, year, month] at dayNumbers
        omega
      exact .inr ⟨congrArg Int.toNat year, .inr ⟨month, .inl day⟩⟩
    · have decided : earlier.date.year.toNat < later.date.year.toNat ∨
          earlier.date.year.toNat = later.date.year.toNat ∧
            earlier.date.month < later.date.month := by
        omega
      rcases decided with year | ⟨year, month⟩
      · exact .inl year
      · exact .inr ⟨year, .inl month⟩

/-- A moment without a fraction comes before those that have one. -/
theorem secondCharacters_lt (ordered : earlier.second < later.second ∨
    earlier.second = later.second ∧ earlier.microsecond < later.microsecond) :
    earlier.secondCharacters < later.secondCharacters := by
  obtain ⟨-, -, secondBound, microsecondBound⟩ := later.timeBounds
  refine Numeral.padded_append_lt (by decide) secondBound ?_
  rcases ordered with smaller | ⟨same, smaller⟩
  · exact .inl smaller
  · refine .inr ⟨same, ?_⟩
    rw [if_neg (Nat.ne_of_gt (Nat.zero_lt_of_lt smaller))]
    split
    · exact List.nil_lt_cons _ _
    · exact List.cons_lt_cons_iff.mpr
        (.inr ⟨rfl, Numeral.fraction_lt_fraction (by decide) microsecondBound smaller⟩)

theorem characters_lt_of_fields_lt (ordered : earlier.fields < later.fields) :
    earlier.characters < later.characters := by
  obtain ⟨yearBound, monthBound, dayBound⟩ := later.dateBounds
  obtain ⟨hourBound, minuteBound, -, -⟩ := later.timeBounds
  have behind {mark : Char} {rest others : List Char} (before : rest < others) :
      mark :: rest < mark :: others :=
    List.cons_lt_cons_iff.mpr (.inr ⟨rfl, before⟩)
  simp only [fields, List.cons_lt_cons_iff, List.lt_irrefl, and_false, or_false] at ordered
  simp only [characters_eq, dateCharacters, List.append_assoc, List.cons_append]
  -- Each field decides or leaves the decision to the text behind it.
  refine Numeral.padded_append_lt (by decide) yearBound (ordered.imp_right (.imp_right ?_))
  refine fun ordered => behind ?_
  refine Numeral.padded_append_lt (by decide) monthBound (ordered.imp_right (.imp_right ?_))
  refine fun ordered => behind ?_
  refine Numeral.padded_append_lt (by decide) dayBound (ordered.imp_right (.imp_right ?_))
  refine fun ordered => behind ?_
  refine Numeral.padded_append_lt (by decide) hourBound (ordered.imp_right (.imp_right ?_))
  refine fun ordered => behind ?_
  refine Numeral.padded_append_lt (by decide) minuteBound (ordered.imp_right (.imp_right ?_))
  exact fun ordered => behind (secondCharacters_lt ordered)

theorem text_lt_of_instant_lt (ordered : earlier.instant < later.instant) :
    earlier.text < later.text := by
  rw [String.lt_iff, text, text, String.toList_ofList, String.toList_ofList]
  exact characters_lt_of_fields_lt (fields_lt_of_instant_lt ordered)

/-- The canonical text of a moment is read back as the moment, and texts are ordered as the moments
are in time, character by character. So different moments have different texts. -/
theorem text_order (first second : DateTime) :
    (Value.dateTime first).canonical? = some first.text ∧ read first.text = .ok first ∧
      (first.instant < second.instant ↔ first.text < second.text) ∧
      (first.text = second.text ↔ first = second) := by
  have order : first.instant < second.instant ↔ first.text < second.text := by
    refine ⟨text_lt_of_instant_lt, fun texts => ?_⟩
    by_contra ordered
    rcases Int.lt_or_eq_of_le (Int.not_lt.mp ordered) with after | same
    · exact String.lt_asymm texts (text_lt_of_instant_lt after)
    · rw [eq_of_instant_eq same] at texts
      exact String.lt_irrefl _ texts
  refine ⟨rfl, read_text first, order, fun same => ?_, congrArg text⟩
  have read := read_text first
  rw [same, read_text] at read
  exact (Except.ok.inj read).symm

end DateTime

end DateCalculator
