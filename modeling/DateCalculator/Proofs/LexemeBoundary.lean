import DateCalculator.Proofs.LexicalCategory
import Mathlib.Data.List.Forall2
import Mathlib.Data.List.TakeWhile

/-!
Where lexemes end. A symbol ends every lexeme in front of it, so that the lexeme is claimed as it is
without the symbol. The one exception is a minus behind a whole number, which may be the first dash
of a date.
-/

namespace DateCalculator.Token

/-- The text begins with a symbol, if it is not empty. -/
def Separating (suffix : List Char) : Prop := ∀ symbol ∈ suffix.head?, isSymbol symbol = true

theorem separating_nil : Separating [] := by
  rintro symbol ⟨⟩

def allSymbols : List Char := ['+', '*', '/', '(', ')', '-']

theorem mem_allSymbols {character : Char} (symbol : isSymbol character = true) :
    character ∈ allSymbols := by
  unfold isSymbol ofSymbol? at symbol
  split at symbol <;> simp [allSymbols] at symbol ⊢

theorem other_of_isSymbol {symbol : Char} (known : isSymbol symbol = true) {kind : Char → Bool}
    (none : allSymbols.any kind = false) : kind symbol = false :=
  Bool.eq_false_iff.mpr (List.any_eq_false.mp none symbol (mem_allSymbols known))

theorem Separating.stops {suffix : List Char} (separating : Separating suffix)
    {kind : Char → Bool} (none : allSymbols.any kind = false) :
    ∀ symbol ∈ suffix.head?, kind symbol = false :=
  fun symbol member => other_of_isSymbol (separating symbol member) none

section Split

variable {text suffix lexeme rest : List Char}

theorem takeWhile_append_of_stopped {kind : Char → Bool}
    (stopped : ∀ first ∈ suffix.head?, kind first = false) (text : List Char) :
    (text ++ suffix).takeWhile kind = text.takeWhile kind := by
  induction text with
  | nil =>
      cases suffix with
      | nil => rfl
      | cons first suffix => simp [stopped first rfl]
  | cons first text ih =>
      rw [List.cons_append, List.takeWhile_cons, List.takeWhile_cons, ih]

theorem dropWhile_append_of_stopped {kind : Char → Bool}
    (stopped : ∀ first ∈ suffix.head?, kind first = false) (text : List Char) :
    (text ++ suffix).dropWhile kind = text.dropWhile kind ++ suffix := by
  induction text with
  | nil =>
      cases suffix with
      | nil => rfl
      | cons first suffix => simp [stopped first rfl]
  | cons first text ih =>
      rw [List.cons_append, List.dropWhile_cons, List.dropWhile_cons, ih]
      split <;> rfl

/-- Each character fits its place in the shape. -/
def Shaped (shape lexeme : List Char) : Prop :=
  List.Forall₂ (fun place character => fitsShape place character = true) shape lexeme

theorem Shaped.exists_place {shape : List Char} (shaped : Shaped shape lexeme) {character : Char}
    (member : character ∈ lexeme) : ∃ place ∈ shape, fitsShape place character = true := by
  induction shaped with
  | nil => contradiction
  | cons fits _ ih =>
      rcases List.mem_cons.mp member with rfl | later
      · exact ⟨_, List.mem_cons_self, fits⟩
      · obtain ⟨place, inside, fits⟩ := ih later
        exact ⟨place, List.mem_cons_of_mem _ inside, fits⟩

theorem Shaped.append {shape more : List Char} (first : Shaped shape lexeme)
    (second : Shaped more rest) : Shaped (shape ++ more) (lexeme ++ rest) :=
  List.rel_append first second

theorem Shaped.exists_append {shape more : List Char} (shaped : Shaped (shape ++ more) text) :
    ∃ lexeme rest, text = lexeme ++ rest ∧ Shaped shape lexeme ∧ Shaped more rest := by
  induction shape generalizing text with
  | nil => exact ⟨[], text, rfl, .nil, shaped⟩
  | cons place shape ih =>
      obtain _ | ⟨fits, behind⟩ := shaped
      obtain ⟨lexeme, rest, rfl, first, second⟩ := ih behind
      exact ⟨_ :: lexeme, rest, rfl, .cons fits first, second⟩

theorem splitShape?_eq_some_iff {shape : List Char} :
    splitShape? shape text = some (lexeme, rest) ↔ lexeme ++ rest = text ∧ Shaped shape lexeme := by
  induction shape generalizing text lexeme with
  | nil =>
      simp only [splitShape?, Option.some.injEq, Prod.mk.injEq, Shaped]
      constructor
      · rintro ⟨rfl, rfl⟩
        exact ⟨rfl, .nil⟩
      · rintro ⟨rfl, ⟨⟩⟩
        exact ⟨rfl, rfl⟩
  | cons place shape ih =>
      cases text with
      | nil =>
          simp only [splitShape?, reduceCtorEq, false_iff, List.append_eq_nil_iff]
          rintro ⟨⟨rfl, rfl⟩, ⟨⟩⟩
      | cons first text =>
          rw [splitShape?]
          constructor
          · intro found
            split at found
            · rename_i fits
              obtain ⟨⟨_, _⟩, inner, same⟩ := Option.map_eq_some_iff.mp found
              cases same
              obtain ⟨rfl, shaped⟩ := ih.mp inner
              exact ⟨rfl, .cons fits shaped⟩
            · contradiction
          · rintro ⟨whole, shaped⟩
            cases shaped with
            | @cons _ _ _ tail fits shaped =>
                obtain ⟨rfl, behind⟩ := List.cons.inj whole
                have inner : splitShape? shape text = some (tail, rest) := ih.mpr ⟨behind, shaped⟩
                rw [if_pos fits, inner]
                rfl

theorem splitShape?_append {shape : List Char}
    (found : splitShape? shape text = some (lexeme, rest)) (suffix : List Char) :
    splitShape? shape (text ++ suffix) = some (lexeme, rest ++ suffix) := by
  obtain ⟨rfl, shaped⟩ := splitShape?_eq_some_iff.mp found
  exact splitShape?_eq_some_iff.mpr ⟨(List.append_assoc ..).symm, shaped⟩

/-- The suffix begins with nothing that fits a place of the shape. -/
def Blocks (suffix shape : List Char) : Prop :=
  ∀ place ∈ shape, ∀ first ∈ suffix.head?, fitsShape place first = false

theorem Separating.blocks (separating : Separating suffix) {shape : List Char}
    (none : allSymbols.any (fun symbol => shape.any (fitsShape · symbol)) = false) :
    Blocks suffix shape := by
  intro place inside first member
  have unfit := separating.stops none first member
  exact Bool.eq_false_iff.mpr (List.any_eq_false.mp unfit place inside)

theorem splitShape?_append_eq_none {shape : List Char} (blocks : Blocks suffix shape)
    (declined : splitShape? shape text = none) : splitShape? shape (text ++ suffix) = none := by
  induction shape generalizing text with
  | nil => contradiction
  | cons place shape ih =>
      cases text with
      | nil =>
          cases suffix with
          | nil => rfl
          | cons first suffix =>
              rw [List.nil_append, splitShape?, blocks place List.mem_cons_self first rfl]
              rfl
      | cons first text =>
          rw [List.cons_append]
          rw [splitShape?] at declined ⊢
          split at declined
          · rename_i fits
            have inner := ih (fun other member => blocks other (List.mem_cons_of_mem place member))
              (Option.map_eq_none_iff.mp declined)
            rw [if_pos fits, inner]
            rfl
          · rename_i misfit
            exact if_neg misfit

theorem splitShapes_of_none {shape : List Char} (declined : splitShape? shape text = none)
    (shapes : List (List Char)) : splitShapes (shape :: shapes) text = ([], text) := by
  rw [splitShapes, declined]

theorem splitShapes_of_some {shape : List Char}
    (found : splitShape? shape text = some (lexeme, rest)) (shapes : List (List Char)) :
    splitShapes (shape :: shapes) text =
      (lexeme ++ (splitShapes shapes rest).1, (splitShapes shapes rest).2) := by
  rw [splitShapes, found]

theorem splitShapes_append {shapes : List (List Char)}
    (blocks : ∀ shape ∈ shapes, Blocks suffix shape) (text : List Char) :
    splitShapes shapes (text ++ suffix) =
      ((splitShapes shapes text).1, (splitShapes shapes text).2 ++ suffix) := by
  induction shapes generalizing text with
  | nil => rfl
  | cons shape shapes ih =>
      have later := ih fun other member => blocks other (List.mem_cons_of_mem shape member)
      cases found : splitShape? shape text with
      | none =>
          have declined := splitShape?_append_eq_none (blocks shape List.mem_cons_self) found
          rw [splitShapes_of_none found, splitShapes_of_none declined]
      | some parts =>
          rw [splitShapes_of_some found, splitShapes_of_some (splitShape?_append found suffix),
            later]

theorem splitDate?_of_some {date afterDate : List Char}
    (found : splitShape? dateShape text = some (date, afterDate)) :
    splitDate? text = some
      (date ++ (splitShapes timeShapes afterDate).1, (splitShapes timeShapes afterDate).2) := by
  rw [splitDate?, found]
  rfl

theorem splitDate?_eq_none_iff : splitDate? text = none ↔ splitShape? dateShape text = none :=
  Option.map_eq_none_iff

/-- A text that begins with a date behind its whole number goes on with a dash there. -/
theorem dash_of_splitDate? (found : splitDate? text = some (lexeme, rest)) :
    (text.dropWhile Char.isDigit).head? = some '-' := by
  obtain ⟨⟨date, afterDate⟩, split, -⟩ := Option.map_eq_some_iff.mp found
  obtain ⟨rfl, shaped⟩ := splitShape?_eq_some_iff.mp split
  unfold Shaped dateShape at shaped
  obtain _ | ⟨first, _ | ⟨second, _ | ⟨third, _ | ⟨fourth, _ | ⟨dash, _⟩⟩⟩⟩⟩ := shaped
  simp only [fitsShape, Char.reduceEq, if_true, if_false, decide_eq_true_eq] at *
  simp [first, second, third, fourth, dash]

theorem splitNumber_of_point {afterPoint : List Char}
    (point : text.dropWhile Char.isDigit = '.' :: afterPoint) :
    splitNumber text =
      (text.takeWhile Char.isDigit ++ '.' :: afterPoint.takeWhile Char.isDigit,
        afterPoint.dropWhile Char.isDigit) := by
  simp only [splitNumber, point]

theorem splitNumber_of_no_point
    (whole : ∀ afterPoint, text.dropWhile Char.isDigit ≠ '.' :: afterPoint) :
    splitNumber text = (text.takeWhile Char.isDigit, text.dropWhile Char.isDigit) := by
  unfold splitNumber
  split
  · rename_i point
    exact absurd point (whole _)
  · rfl

theorem splitNumber_append (separating : Separating suffix) (text : List Char) :
    splitNumber (text ++ suffix) = ((splitNumber text).1, (splitNumber text).2 ++ suffix) := by
  have digits : ∀ symbol ∈ suffix.head?, symbol.isDigit = false := separating.stops rfl
  have dropped := dropWhile_append_of_stopped digits
  have taken := takeWhile_append_of_stopped digits
  by_cases pointed : ∃ afterPoint, text.dropWhile Char.isDigit = '.' :: afterPoint
  · obtain ⟨afterPoint, point⟩ := pointed
    have longer : (text ++ suffix).dropWhile Char.isDigit = '.' :: (afterPoint ++ suffix) := by
      rw [dropped, point, List.cons_append]
    rw [splitNumber_of_point point, splitNumber_of_point longer, taken, taken, dropped]
  · have whole : ∀ afterPoint, text.dropWhile Char.isDigit ≠ '.' :: afterPoint :=
      fun afterPoint point => pointed ⟨afterPoint, point⟩
    have points : ∀ symbol ∈ suffix.head?, (symbol == '.') = false := separating.stops rfl
    have longer : ∀ afterPoint, (text ++ suffix).dropWhile Char.isDigit ≠ '.' :: afterPoint := by
      intro afterPoint point
      rw [dropped] at point
      cases left : text.dropWhile Char.isDigit with
      | nil =>
          rw [left, List.nil_append] at point
          have other := points '.' (by rw [point]; rfl)
          contradiction
      | cons first tail =>
          rw [left] at point
          obtain ⟨rfl, -⟩ := List.cons.inj point
          exact whole tail left
    rw [splitNumber_of_no_point whole, splitNumber_of_no_point longer, taken, dropped]

theorem splitNow?_eq_none (declined : splitShape? ['n', 'o', 'w'] text = none) :
    splitNow? text = none := by
  unfold splitNow?
  split
  · contradiction
  · rfl

theorem eq_of_nowShape (found : splitShape? ['n', 'o', 'w'] text = some (lexeme, rest)) :
    text = 'n' :: 'o' :: 'w' :: rest := by
  obtain ⟨rfl, shaped⟩ := splitShape?_eq_some_iff.mp found
  unfold Shaped at shaped
  obtain _ | ⟨first, _ | ⟨second, _ | ⟨third, ⟨⟩⟩⟩⟩ := shaped
  simp only [fitsShape, Char.reduceEq, if_false, decide_eq_true_eq] at first second third
  subst first second third
  rfl

end Split

def Match.append {text : List Char} (found : Match text) (suffix : List Char) :
    Match (text ++ suffix) where
  token := found.token
  lexeme := found.lexeme
  rest := found.rest ++ suffix
  lexeme_ne_nil := found.lexeme_ne_nil
  append_eq := by rw [← List.append_assoc, found.append_eq]

section MatchAppend

variable {text : List Char} (found : Match text) (suffix : List Char)

@[simp] theorem Match.token_append : (found.append suffix).token = found.token := rfl

@[simp] theorem Match.lexeme_append : (found.append suffix).lexeme = found.lexeme := rfl

@[simp] theorem Match.rest_append : (found.append suffix).rest = found.rest ++ suffix := rfl

end MatchAppend

namespace Category

/-- What is split from the text is not longer for what follows the text. -/
def StopsAt (category : Category) (text suffix : List Char) : Prop :=
  category.split? (text ++ suffix) =
    (category.split? text).map fun parts => (parts.1, parts.2 ++ suffix)

theorem stopsAt_of_other {category : Category} {first : Char}
    (other : category.initial first = false) (text suffix : List Char) :
    category.StopsAt (first :: text) suffix := by
  unfold StopsAt
  rw [category.split?_eq_none other, List.cons_append, category.split?_eq_none other]
  rfl

theorem rule_append {category : Category} {text suffix : List Char}
    (stops : category.StopsAt text suffix) (before : Option Token) :
    category.rule before (text ++ suffix) =
      (category.rule before text).map (Option.map (·.append suffix)) := by
  unfold StopsAt at stops
  cases splits : category.split? text with
  | none =>
      rw [splits] at stops
      rw [rule_of_none stops, rule_of_none splits]
      rfl
  | some parts =>
      rw [splits] at stops
      rw [rule_of_some stops, rule_of_some splits]
      cases category.reading before parts.1 <;> rfl

end Category

theorem firstMatch?_append {text suffix : List Char}
    (stops : ∀ category ∈ categories, category.StopsAt text suffix) (before : Option Token) :
    firstMatch? recognizers before (text ++ suffix) =
      (firstMatch? recognizers before text).map (Option.map (·.append suffix)) := by
  rw [recognizers_eq]
  generalize categories = chosen at stops ⊢
  induction chosen with
  | nil => rfl
  | cons category chosen ih =>
      have first := Category.rule_append (stops category List.mem_cons_self) before
      have later := ih fun other member => stops other (List.mem_cons_of_mem category member)
      rw [List.map_cons, firstMatch?, firstMatch?, first, later]
      rcases category.rule before text with misreading | _ | found <;> rfl

section Separated

variable {text suffix : List Char}

theorem nows_stopsAt (separating : Separating suffix) : nows.StopsAt text suffix := by
  change splitNow? (text ++ suffix) = (splitNow? text).map _
  have blocks : Blocks suffix ['n', 'o', 'w'] := separating.blocks rfl
  cases found : splitShape? ['n', 'o', 'w'] text with
  | none =>
      rw [splitNow?_eq_none found, splitNow?_eq_none (splitShape?_append_eq_none blocks found)]
      rfl
  | some parts =>
      obtain ⟨lexeme, rest⟩ := parts
      have same := eq_of_nowShape found
      subst same
      have words : ∀ symbol ∈ suffix.head?, isWordCharacter symbol = false :=
        separating.stops rfl
      cases rest with
      | nil =>
          cases suffix with
          | nil => rfl
          | cons symbol suffix => simp [splitNow?, words symbol rfl]
      | cons next rest =>
          cases word : isWordCharacter next <;> simp [splitNow?, word]

theorem durations_stopsAt (separating : Separating suffix) (nonempty : text ≠ []) :
    durations.StopsAt text suffix := by
  obtain ⟨first, text, rfl⟩ := List.exists_cons_of_ne_nil nonempty
  change splitDuration? (first :: (text ++ suffix)) = (splitDuration? (first :: text)).map _
  have stopped : ∀ symbol ∈ suffix.head?, symbol.isAlphanum = false := separating.stops rfl
  rw [splitDuration?, splitDuration?, takeWhile_append_of_stopped stopped,
    dropWhile_append_of_stopped stopped]
  split <;> rfl

theorem symbols_stopsAt (nonempty : text ≠ []) (suffix : List Char) :
    symbols.StopsAt text suffix := by
  obtain ⟨first, text, rfl⟩ := List.exists_cons_of_ne_nil nonempty
  change splitSymbol? (first :: (text ++ suffix)) = (splitSymbol? (first :: text)).map _
  rw [splitSymbol?, splitSymbol?]
  split <;> rfl

theorem numbers_stopsAt (separating : Separating suffix) : numbers.StopsAt text suffix := by
  change splitNumber? (text ++ suffix) = (splitNumber? text).map _
  unfold splitNumber?
  rw [splitNumber_append separating]
  split <;> rfl

theorem dates_stopsAt (separating : Separating suffix)
    (undated : splitDate? text = none → splitDate? (text ++ suffix) = none) :
    dates.StopsAt text suffix := by
  change splitDate? (text ++ suffix) = (splitDate? text).map _
  cases found : splitDate? text with
  | none => exact undated found
  | some parts =>
      obtain ⟨⟨date, afterDate⟩, shaped, same⟩ := Option.map_eq_some_iff.mp found
      subst same
      have blocks : ∀ shape ∈ timeShapes, Blocks suffix shape := by
        simp only [timeShapes, List.forall_mem_cons, List.not_mem_nil, false_imp_iff,
          implies_true, and_true]
        exact ⟨separating.blocks rfl, separating.blocks rfl, separating.blocks rfl⟩
      rw [splitDate?_of_some (splitShape?_append shaped suffix), splitShapes_append blocks]
      rfl

theorem stopsAt_of_separating (separating : Separating suffix) (nonempty : text ≠ [])
    (undated : splitDate? text = none → splitDate? (text ++ suffix) = none) :
    ∀ category ∈ categories, category.StopsAt text suffix :=
  forall_mem_categories.mpr ⟨dates_stopsAt separating undated, nows_stopsAt separating,
    durations_stopsAt separating nonempty, symbols_stopsAt nonempty suffix,
    numbers_stopsAt separating⟩

theorem initials_of_isSymbol {symbol : Char} (known : isSymbol symbol = true) :
    dates.initial symbol = false ∧ nows.initial symbol = false ∧
      durations.initial symbol = false ∧ numbers.initial symbol = false :=
  ⟨other_of_isSymbol known rfl, other_of_isSymbol known rfl, other_of_isSymbol known rfl,
    other_of_isSymbol known rfl⟩

/-- A symbol ends itself, whatever follows it. -/
theorem stopsAt_of_symbol {symbol : Char} (known : isSymbol symbol = true) (suffix : List Char) :
    ∀ category ∈ categories, category.StopsAt [symbol] suffix := by
  obtain ⟨date, now, duration, number⟩ := initials_of_isSymbol known
  exact forall_mem_categories.mpr
    ⟨Category.stopsAt_of_other date [] suffix, Category.stopsAt_of_other now [] suffix,
      Category.stopsAt_of_other duration [] suffix, symbols_stopsAt (List.cons_ne_nil _ _) suffix,
      Category.stopsAt_of_other number [] suffix⟩

end Separated

end DateCalculator.Token
