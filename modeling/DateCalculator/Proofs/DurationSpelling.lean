import DateCalculator.Duration.Reader
import DateCalculator.Proofs.SignedAmounts
import Mathlib.Data.List.TakeWhile

/-!
How durations are spelled. A spelling has an optional sign, `P`, amounts from years down to days in
this order, then perhaps `T` and amounts from hours down to seconds, at least one of these behind a
`T` and at least one in all, and perhaps a line end. The reader takes a text apart exactly if it has
a spelling, and into the parts of that spelling.
-/

namespace DateCalculator.Duration

/-- The characters that stand for a designator: it may be in either case, and the long s counts as
an s. -/
def marks (designator : Char) : List Char :=
  if designator = 'S' then ['S', 's', '\u017F'] else [designator, designator.toLower]

def designators : List Char := ['P', 'Y', 'M', 'W', 'D', 'T', 'H', 'S']

structure DigitRun where
  digits : List Char
  ne_nil : digits ≠ []
  decimal : ∀ digit ∈ digits, Text.isDecimalDigit digit = true

/-- An amount: a numeral with its designator behind it. -/
structure Component (designator : Char) where
  numeral : DigitRun
  mark : Char
  marked : mark ∈ marks designator

structure Fraction where
  point : Char
  run : DigitRun
  pointed : point = '.' ∨ point = ','

structure SecondsComponent where
  numeral : DigitRun
  fraction : Option Fraction
  mark : Char
  marked : mark ∈ marks 'S'

structure TimeSpelling where
  mark : Char
  hours : Option (Component 'H')
  minutes : Option (Component 'M')
  seconds : Option SecondsComponent
  marked : mark ∈ marks 'T'
  given : hours.isSome ∨ minutes.isSome ∨ seconds.isSome

inductive Sign where
  | absent | plus | minus
  deriving DecidableEq

structure Spelling where
  sign : Sign
  mark : Char
  years : Option (Component 'Y')
  months : Option (Component 'M')
  weeks : Option (Component 'W')
  days : Option (Component 'D')
  time : Option TimeSpelling
  lineEnd : Bool
  marked : mark ∈ marks 'P'
  given : years.isSome ∨ months.isSome ∨ weeks.isSome ∨ days.isSome ∨ time.isSome

def Sign.text : Sign → List Char
  | absent => []
  | plus => ['+']
  | minus => ['-']

def Component.text {designator : Char} (component : Component designator) : List Char :=
  component.numeral.digits ++ [component.mark]

def Fraction.text (fraction : Fraction) : List Char := fraction.point :: fraction.run.digits

def SecondsComponent.text (seconds : SecondsComponent) : List Char :=
  seconds.numeral.digits ++ (seconds.fraction.elim [] Fraction.text ++ [seconds.mark])

def TimeSpelling.body (time : TimeSpelling) : List Char :=
  time.hours.elim [] Component.text ++ time.minutes.elim [] Component.text ++
    time.seconds.elim [] SecondsComponent.text

def TimeSpelling.text (time : TimeSpelling) : List Char := time.mark :: time.body

def lineEndText (lineEnd : Bool) : List Char := if lineEnd then ['\n'] else []

namespace Spelling

variable (spelling : Spelling)

def text : List Char :=
  spelling.sign.text ++ spelling.mark :: (spelling.years.elim [] Component.text ++
    spelling.months.elim [] Component.text ++ spelling.weeks.elim [] Component.text ++
    spelling.days.elim [] Component.text ++ spelling.time.elim [] TimeSpelling.text ++
    lineEndText spelling.lineEnd)

def negative : Bool := spelling.sign = .minus

def hours : Option (Component 'H') := spelling.time.bind TimeSpelling.hours

def minutes : Option (Component 'M') := spelling.time.bind TimeSpelling.minutes

def seconds : Option SecondsComponent := spelling.time.bind TimeSpelling.seconds

end Spelling

section Letters

theorem eq_of_toUpper {letter mark : Char} (upper : mark.toUpper = letter) :
    mark = letter ∨ mark = letter.toLower := by
  unfold Char.toUpper at upper
  split at upper
  · rename_i lower
    right
    have first : 97 ≤ mark.val := lower.1
    have last : mark.val ≤ 122 := lower.2
    have shifted : letter.val + 32 = mark.val := by
      rw [← upper]
      change mark.val + (65 - 97) + 32 = _
      grind
    unfold Char.toLower
    rw [dif_pos]
    · exact Char.ext shifted.symm
    · change 65 ≤ letter.val ∧ letter.val ≤ 90
      grind
  · exact .inl upper

theorem isLetter_of_mem_marks : ∀ designator ∈ designators, ∀ mark ∈ marks designator,
    isLetter designator mark = true := by
  have checked : (designators.all fun designator => (marks designator).all (isLetter designator)) =
      true := by decide +kernel
  intro designator known mark marked
  exact List.all_eq_true.mp (List.all_eq_true.mp checked designator known) mark marked

theorem mem_marks_of_isLetter {designator mark : Char} (letter : isLetter designator mark = true) :
    mark ∈ marks designator := by
  simp only [isLetter, Bool.or_eq_true, decide_eq_true_eq, Bool.and_eq_true] at letter
  unfold marks
  rcases letter with upper | ⟨rfl, rfl⟩
  · have either := eq_of_toUpper upper
    split
    · rename_i capital
      subst capital
      rcases either with rfl | rfl <;> decide
    · simpa using either
  · decide

theorem isLetter_iff {designator : Char} (known : designator ∈ designators) {mark : Char} :
    isLetter designator mark = true ↔ mark ∈ marks designator :=
  ⟨mem_marks_of_isLetter, isLetter_of_mem_marks designator known mark⟩

theorem not_isDecimalDigit_of_mem_marks : ∀ designator ∈ designators, ∀ mark ∈ marks designator,
    Text.isDecimalDigit mark = false := by
  have checked : (designators.all fun designator => (marks designator).all fun mark =>
      Text.isDecimalDigit mark = false) = true := by decide +kernel
  intro designator known mark marked
  exact of_decide_eq_true
    (List.all_eq_true.mp (List.all_eq_true.mp checked designator known) mark marked)

end Letters

/-- Behind its leading digits, if any, the text ends or goes on with one of these characters. -/
def Leads (possible : List Char) (text : List Char) : Prop :=
  ∀ mark ∈ (text.dropWhile Text.isDecimalDigit).head?, mark ∈ possible

section Leads

variable {designator : Char} {possible rest : List Char}

theorem DigitRun.takeWhile_append (run : DigitRun) {mark : Char}
    (other : Text.isDecimalDigit mark = false) (rest : List Char) :
    (run.digits ++ mark :: rest).takeWhile Text.isDecimalDigit = run.digits := by
  rw [List.takeWhile_append_of_pos run.decimal,
    List.takeWhile_cons_of_neg (by simp [other]), List.append_nil]

theorem DigitRun.dropWhile_append (run : DigitRun) {mark : Char}
    (other : Text.isDecimalDigit mark = false) (rest : List Char) :
    (run.digits ++ mark :: rest).dropWhile Text.isDecimalDigit = mark :: rest := by
  rw [List.dropWhile_append_of_pos run.decimal, List.dropWhile_cons_of_neg (by simp [other])]

theorem DigitRun.leads (run : DigitRun) {mark : Char} (other : Text.isDecimalDigit mark = false)
    (member : mark ∈ possible) (rest : List Char) : Leads possible (run.digits ++ mark :: rest) := by
  intro lead leading
  rw [run.dropWhile_append other] at leading
  cases leading
  exact member

theorem leads_lineEnd (lineEnd : Bool) : Leads ['\n'] (lineEndText lineEnd) := by
  cases lineEnd with
  | false => rintro mark ⟨⟩
  | true =>
      rintro mark ⟨⟩
      exact List.mem_cons_self

theorem Leads.or {text : List Char} (leads : Leads possible text) (more : List Char) :
    Leads (more ++ possible) text :=
  fun mark leading => List.mem_append_right more (leads mark leading)

theorem Leads.component (known : designator ∈ designators) (leads : Leads possible rest)
    (given : Option (Component designator)) :
    Leads (marks designator ++ possible) (given.elim [] Component.text ++ rest) := by
  cases given with
  | none => exact leads.or (marks designator)
  | some component =>
      have other := not_isDecimalDigit_of_mem_marks designator known _ component.marked
      have member := List.mem_append_left possible component.marked
      have written := component.numeral.leads other member rest
      rwa [Option.elim_some, Component.text, List.append_assoc]

theorem Leads.seconds (leads : Leads possible rest) (given : Option SecondsComponent) :
    Leads (['.', ','] ++ (marks 'S' ++ possible)) (given.elim [] SecondsComponent.text ++ rest) := by
  cases given with
  | none => exact (leads.or (marks 'S')).or ['.', ',']
  | some seconds =>
      obtain ⟨numeral, fraction, mark, marked⟩ := seconds
      rw [Option.elim_some, SecondsComponent.text, List.append_assoc]
      cases fraction with
      | none =>
          have other := not_isDecimalDigit_of_mem_marks 'S' (by decide) mark marked
          have member : mark ∈ ['.', ','] ++ (marks 'S' ++ possible) :=
            List.mem_append_right _ (List.mem_append_left possible marked)
          exact numeral.leads other member rest
      | some fraction =>
          obtain ⟨point, run, pointed⟩ := fraction
          have either : point ∈ ['.', ','] := by simpa using pointed
          have other : Text.isDecimalDigit point = false := by
            rcases pointed with rfl | rfl <;> decide
          exact numeral.leads other (List.mem_append_left _ either) _

theorem leads_time (given : Option TimeSpelling) (lineEnd : Bool) :
    Leads (marks 'T' ++ ['\n']) (given.elim [] TimeSpelling.text ++ lineEndText lineEnd) := by
  cases given with
  | none => exact (leads_lineEnd lineEnd).or (marks 'T')
  | some time =>
      have other := not_isDecimalDigit_of_mem_marks 'T' (by decide) time.mark time.marked
      intro lead leading
      rw [Option.elim_some, TimeSpelling.text, List.cons_append,
        List.dropWhile_cons_of_neg (by simp [other])] at leading
      cases leading
      exact List.mem_append_left _ time.marked

end Leads

section Taking

variable {designator : Char} {possible text rest : List Char}

theorem takeAmount_component (known : designator ∈ designators)
    (component : Component designator) (rest : List Char) :
    takeAmount designator (component.text ++ rest) = (some component.numeral.digits, rest) := by
  have other := not_isDecimalDigit_of_mem_marks designator known _ component.marked
  have letter := (isLetter_iff known).mpr component.marked
  rw [Component.text, List.append_assoc, List.singleton_append, takeAmount]
  simp only [component.numeral.takeWhile_append other, component.numeral.dropWhile_append other]
  exact if_pos ⟨component.numeral.ne_nil, letter⟩

theorem takeAmount_of_leads (leads : Leads possible rest)
    (other : possible.any (isLetter designator) = false) :
    takeAmount designator rest = (none, rest) := by
  unfold takeAmount
  dsimp only
  split
  · rename_i mark behind dropped
    have leading : mark ∈ (rest.dropWhile Text.isDecimalDigit).head? := by rw [dropped]; rfl
    have declined := List.any_eq_false.mp other mark (leads mark leading)
    exact if_neg fun both => declined both.2
  · rfl

/-- An amount is taken where it is written, and nothing where it is not, if what follows cannot be
taken for it. -/
theorem takeAmount_written (known : designator ∈ designators)
    (given : Option (Component designator)) (leads : Leads possible rest)
    (other : possible.any (isLetter designator) = false) :
    takeAmount designator (given.elim [] Component.text ++ rest) =
      ((given.map Component.numeral).map DigitRun.digits, rest) := by
  cases given with
  | none => exact takeAmount_of_leads leads other
  | some component => exact takeAmount_component known component rest

theorem exists_component {given : Option (List Char)}
    (taken : takeAmount designator text = (given, rest)) :
    ∃ written : Option (Component designator),
      written.elim [] Component.text ++ rest = text ∧
        (written.map Component.numeral).map DigitRun.digits = given := by
  unfold takeAmount at taken
  dsimp only at taken
  split at taken
  · rename_i mark behind dropped
    split at taken
    · rename_i both
      cases taken
      refine ⟨some ⟨⟨_, both.1, fun _ => List.mem_takeWhile_imp⟩, mark,
        mem_marks_of_isLetter both.2⟩, ?_, rfl⟩
      have whole := List.takeWhile_append_dropWhile (p := Text.isDecimalDigit) (l := text)
      rw [dropped] at whole
      simpa [Component.text] using whole
    · cases taken
      exact ⟨none, rfl, rfl⟩
  · cases taken
    exact ⟨none, rfl, rfl⟩

end Taking

end DateCalculator.Duration
