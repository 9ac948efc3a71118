import DateCalculator.Presentation
import DateCalculator.Proofs.NumeralText
import DateCalculator.Proofs.SignedAmounts

/-!
Lists of amounts as they are displayed. Numbers have commas between their groups of digits, each is
followed by the name of its unit, and a minus before the list belongs to all of it. Without the
commas the words are parted by blanks, and so the amounts are read back.
-/

namespace DateCalculator

section Text

variable {keep : Char → Bool} {separator : List Char}

theorem Text.filter_intercalate (parts : List (List Char)) :
    (separator.intercalate parts).filter keep =
      (separator.filter keep).intercalate (parts.map (List.filter keep)) := by
  induction parts with
  | nil => rfl
  | cons first rest ih =>
      cases rest with
      | nil => simp only [List.intercalate_singleton, List.map_cons, List.map_nil]
      | cons second rest =>
          rw [List.intercalate_cons_cons, List.filter_append, List.filter_append, ih]
          simp only [List.map_cons, List.intercalate_cons_cons]

theorem Text.intercalate_nil_left (parts : List (List Char)) :
    [].intercalate parts = parts.flatten := by
  induction parts with
  | nil => rfl
  | cons first rest ih =>
      cases rest with
      | nil => rw [List.intercalate_singleton, List.flatten_cons, List.flatten_nil, List.append_nil]
      | cons second rest =>
          rw [List.intercalate_cons_cons, List.append_nil, ih]
          rfl

theorem Text.mem_intercalate {character : Char} {parts : List (List Char)}
    (member : character ∈ separator.intercalate parts) :
    character ∈ separator ∨ ∃ part ∈ parts, character ∈ part := by
  induction parts with
  | nil => contradiction
  | cons first rest ih =>
      cases rest with
      | nil =>
          rw [List.intercalate_singleton] at member
          exact .inr ⟨first, List.mem_cons_self, member⟩
      | cons second rest =>
          rw [List.intercalate_cons_cons, List.mem_append, List.mem_append] at member
          rcases member with (inFirst | inSeparator) | later
          · exact .inr ⟨first, List.mem_cons_self, inFirst⟩
          · exact .inl inSeparator
          · rcases ih later with inSeparator | ⟨part, among, inPart⟩
            · exact .inl inSeparator
            · exact .inr ⟨part, List.mem_cons_of_mem first among, inPart⟩

end Text

namespace Locale

theorem flatten_groups (digits : List Char) :
    (groups digits).reverse.flatten = digits.reverse := by
  fun_induction groups digits with
  | case1 => rfl
  | case2 ones => rfl
  | case3 ones tens => rfl
  | case4 ones tens hundreds rest ih =>
      rw [List.reverse_cons, List.flatten_append, ih]
      simp

/-- Without the commas between the groups a grouped number is its numeral. -/
theorem filter_grouped (number : Nat) :
    (americanEnglish.grouped number).toList.filter (· ≠ ',') = Nat.toDigits 10 number := by
  have digits := flatten_groups (Nat.toDigits 10 number).reverse
  have plain : ∀ digit ∈ Nat.toDigits 10 number, decide (digit ≠ ',') = true := by
    intro digit member
    have ascii := Numeral.isDigit_of_mem_toDigits digit member
    simp only [decide_eq_true_eq]
    rintro rfl
    contradiction
  have comma : americanEnglish.groupSeparator.toList.filter (· ≠ ',') = [] := by decide
  have texts (parts : List (List Char)) : (parts.map String.ofList).map String.toList = parts := by
    simp [Function.comp_def]
  rw [List.reverse_reverse] at digits
  rw [grouped, String.toList_intercalate, texts, Text.filter_intercalate, comma,
    Text.intercalate_nil_left, ← List.filter_flatten, digits]
  exact List.filter_eq_self.mpr plain

theorem join_americanEnglish (parts : List String) :
    americanEnglish.join parts = ", ".intercalate parts := by
  fun_induction join americanEnglish parts with
  | case1 => rfl
  | case2 part => rfl
  | case3 first last =>
      rw [String.intercalate_cons_cons, String.intercalate_singleton]
      rfl
  | case4 first rest several more ih =>
      rw [ih, String.intercalate_cons_of_ne_nil]
      intro none
      exact several none

end Locale

namespace Presentation

/-- The name of a unit in the display, for so many of it. -/
def unitWord (unit : TimeUnit) (amount : Nat) : String :=
  match unit with
  | .day => if amount = 1 then "day" else "days"
  | .hour => "hr"
  | .minute => "min"
  | _ => "sec"

/-- A list of amounts, with the minus of all of them before the first. -/
def shown (negative : Bool) (parts : List (TimeUnit × Nat)) : String :=
  (if negative then "-" else "") ++ ", ".intercalate (parts.map fun part =>
    Locale.americanEnglish.grouped part.2 ++ " " ++ unitWord part.1 part.2)

/-- What a display may list: units from days down, each at most once, and of none of them nothing or
as much as there is in the unit before. -/
structure Listed (parts : List (TimeUnit × Nat)) : Prop where
  ordered : (parts.map Prod.fst).Sublist [.day, .hour, .minute, .second]
  nonzero : ∀ part ∈ parts, part.2 ≠ 0
  hours : ∀ amount, (TimeUnit.hour, amount) ∈ parts → amount < 24
  minutes : ∀ amount, (TimeUnit.minute, amount) ∈ parts → amount < 60
  seconds : ∀ amount, (TimeUnit.second, amount) ∈ parts → amount < 60

def unitSeconds : List (String × Nat) :=
  [("day", 86400), ("days", 86400), ("hr", 3600), ("min", 60), ("sec", 1)]

/-- Reads numerals and names of units by turns. -/
def readWords? : List (List Char) → Option Nat
  | [] => some 0
  | numeral :: word :: rest => do
      let seconds ← unitSeconds.lookup (String.ofList word)
      let later ← readWords? rest
      return Numeral.value numeral * seconds + later
  | [_] => none

/-- Reads amounts that are parted by blanks; commas do not count. -/
def readAmounts? (text : List Char) : Option Nat :=
  readWords? ((text.filter (· ≠ ',')).splitOn ' ')

/-- Reads a displayed duration in seconds. A leading minus is that of all the amounts. -/
def readSeconds? (text : String) : Option Int :=
  match text.toList with
  | '-' :: rest => (readAmounts? rest).map (signed true)
  | characters => (readAmounts? characters).map (signed false)

theorem amount_americanEnglish (negative : Bool) (unit : TimeUnit) (number : Nat) :
    Locale.americanEnglish.amount negative unit number = (if negative then "-" else "") ++
      (Locale.americanEnglish.grouped number ++ " " ++ unitWord unit number) := by
  have label : Locale.americanEnglish.unitLabel unit number = " " ++ unitWord unit number := by
    cases unit <;> simp only [Locale.unitLabel, unitWord] <;> try rfl
    split <;> rfl
  rw [Locale.amount, label, String.append_assoc, String.append_assoc]

/-- The seconds that a list of amounts adds up to. -/
def secondsOver (parts : List (TimeUnit × Nat)) : Nat :=
  parts.foldr (fun part total => part.2 * (part.1.length / 1000) + total) 0

theorem secondsOver_cons (part : TimeUnit × Nat) (parts : List (TimeUnit × Nat)) :
    secondsOver (part :: parts) = part.2 * (part.1.length / 1000) + secondsOver parts := rfl

theorem secondsOver_filter (parts : List (TimeUnit × Nat)) :
    secondsOver (parts.filter fun part => part.2 ≠ 0) = secondsOver parts := by
  induction parts with
  | nil => rfl
  | cons part parts ih =>
      by_cases zero : part.2 = 0
      · rw [List.filter_cons_of_neg (by simpa using zero), ih, secondsOver_cons, zero]
        omega
      · rw [List.filter_cons_of_pos (by simpa using zero), secondsOver_cons, secondsOver_cons, ih]

section Reading

variable {parts : List (TimeUnit × Nat)}

/-- The words of a display: a numeral and the name of its unit for each amount. -/
def words (parts : List (TimeUnit × Nat)) : List (List Char) :=
  parts.flatMap fun part => [Nat.toDigits 10 part.2, (unitWord part.1 part.2).toList]

theorem words_cons (part : TimeUnit × Nat) (parts : List (TimeUnit × Nat)) :
    words (part :: parts) =
      Nat.toDigits 10 part.2 :: (unitWord part.1 part.2).toList :: words parts := rfl

theorem lookup_unitWord {unit : TimeUnit} (displayed : unit ∈ displayUnits) (amount : Nat) :
    unitSeconds.lookup (unitWord unit amount) = some (unit.length / 1000) := by
  simp only [displayUnits, List.mem_cons, List.not_mem_nil, or_false] at displayed
  rcases displayed with rfl | rfl | rfl | rfl
  · simp only [unitWord]
    split <;> decide
  all_goals
    simp only [unitWord]
    decide

theorem readWords?_words (displayed : ∀ part ∈ parts, part.1 ∈ displayUnits) :
    readWords? (words parts) = some (secondsOver parts) := by
  induction parts with
  | nil => rfl
  | cons part parts ih =>
      have unit := lookup_unitWord (displayed part List.mem_cons_self) part.2
      have later := ih fun other member => displayed other (List.mem_cons_of_mem part member)
      rw [words_cons, readWords?, String.ofList_toList, unit, later, Numeral.value_toDigits]
      rfl

theorem isAlphanum_of_mem_unitWord {unit : TimeUnit} {amount : Nat} :
    ∀ character ∈ (unitWord unit amount).toList, character.isAlphanum = true := by
  have letters : ∀ name ∈ ["day", "days", "hr", "min", "sec"],
      name.toList.all Char.isAlphanum = true := by decide
  have listed : unitWord unit amount ∈ ["day", "days", "hr", "min", "sec"] := by
    cases unit <;> simp only [unitWord] <;> first | decide | (split <;> decide)
  exact List.all_eq_true.mp (letters _ listed)

/-- A word is made of digits or of letters. -/
theorem isAlphanum_of_mem_words {word : List Char} (member : word ∈ words parts) :
    ∀ character ∈ word, character.isAlphanum = true := by
  obtain ⟨part, -, among⟩ := List.mem_flatMap.mp member
  simp only [List.mem_cons, List.not_mem_nil, or_false] at among
  rcases among with rfl | rfl
  · intro character inside
    have digit := Numeral.isDigit_of_mem_toDigits character inside
    simp only [Char.isAlphanum, digit, Bool.or_true]
  · exact isAlphanum_of_mem_unitWord

def listText (parts : List (TimeUnit × Nat)) : List Char :=
  [',', ' '].intercalate (parts.map fun part =>
    (Locale.americanEnglish.grouped part.2).toList ++ ' ' :: (unitWord part.1 part.2).toList)

theorem toList_shown (negative : Bool) (parts : List (TimeUnit × Nat)) :
    (shown negative parts).toList = (if negative then ['-'] else []) ++ listText parts := by
  have minus : (if negative then "-" else "").toList = if negative then ['-'] else [] := by
    cases negative <;> rfl
  have amounts : (parts.map fun part => Locale.americanEnglish.grouped part.2 ++ " " ++
      unitWord part.1 part.2).map String.toList = parts.map fun part =>
        (Locale.americanEnglish.grouped part.2).toList ++ ' ' ::
          (unitWord part.1 part.2).toList := by
    simp [String.toList_append]
  rw [shown, String.toList_append, String.toList_intercalate, minus, amounts]
  rfl

/-- Without commas a list of amounts is its words with blanks between them. -/
theorem filter_listText (parts : List (TimeUnit × Nat)) :
    (listText parts).filter (· ≠ ',') = [' '].intercalate (words parts) := by
  have blank : [',', ' '].filter (· ≠ ',') = [' '] := by decide
  have each (part : TimeUnit × Nat) :
      ((Locale.americanEnglish.grouped part.2).toList ++
        ' ' :: (unitWord part.1 part.2).toList).filter (· ≠ ',') =
          Nat.toDigits 10 part.2 ++ ' ' :: (unitWord part.1 part.2).toList := by
    have word : ∀ character ∈ ' ' :: (unitWord part.1 part.2).toList,
        decide (character ≠ ',') = true := by
      refine List.forall_mem_cons.mpr ⟨rfl, fun character member => ?_⟩
      have letter := isAlphanum_of_mem_unitWord character member
      simp only [decide_eq_true_eq]
      rintro rfl
      contradiction
    rw [List.filter_append, Locale.filter_grouped, List.filter_eq_self.mpr word]
  rw [listText, Text.filter_intercalate, blank, List.map_map]
  induction parts with
  | nil => rfl
  | cons part parts ih =>
      rw [List.map_cons, words_cons, Function.comp_apply, each]
      cases parts with
      | nil =>
          rw [List.map_nil, List.intercalate_singleton, List.intercalate_cons_cons]
          simp [words]
      | cons second rest =>
          rw [List.intercalate_cons_of_ne_nil (by simp), ih, words_cons,
            List.intercalate_cons_cons, List.intercalate_cons_cons]
          simp

theorem readAmounts?_listText (several : parts ≠ [])
    (displayed : ∀ part ∈ parts, part.1 ∈ displayUnits) :
    readAmounts? (listText parts) = some (secondsOver parts) := by
  have blankless : ∀ word ∈ words parts, ' ' ∉ word := by
    intro word member blank
    have letter := isAlphanum_of_mem_words member ' ' blank
    contradiction
  have named : words parts ≠ [] := by
    obtain ⟨part, rest, rfl⟩ := List.exists_cons_of_ne_nil several
    simp [words_cons]
  rw [readAmounts?, filter_listText, List.splitOn_intercalate ' ' blankless named,
    readWords?_words displayed]

/-- There is no minus in a list of amounts. -/
theorem minus_not_mem_listText : '-' ∉ listText parts := by
  intro member
  have kept : '-' ∈ (listText parts).filter (· ≠ ',') := List.mem_filter.mpr ⟨member, rfl⟩
  rw [filter_listText] at kept
  rcases Text.mem_intercalate kept with blank | ⟨word, among, inside⟩
  · contradiction
  · have letter := isAlphanum_of_mem_words among '-' inside
    contradiction

/-- A displayed list is read back as the seconds of its amounts. -/
theorem readSeconds?_shown (negative : Bool) (several : parts ≠ [])
    (displayed : ∀ part ∈ parts, part.1 ∈ displayUnits) :
    readSeconds? (shown negative parts) = some (signed negative (secondsOver parts)) := by
  have read := readAmounts?_listText several displayed
  unfold readSeconds?
  rw [toList_shown]
  cases negative with
  | true =>
      simp only [if_true, List.singleton_append, read]
      rfl
  | false =>
      simp only [Bool.false_eq_true, if_false, List.nil_append]
      split
      next rest text =>
        have minus : '-' ∈ listText parts := by rw [text]; exact List.mem_cons_self
        exact absurd minus minus_not_mem_listText
      next => rw [read, Option.map_some]

end Reading

end Presentation

end DateCalculator
