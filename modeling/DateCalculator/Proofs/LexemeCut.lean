import DateCalculator.Proofs.LexemeBoundary

/-!
What follows a lexeme does not matter. When a text is cut anywhere behind its first lexeme, the same
category still splits the same lexeme from what is left, and the categories before it still decline.
So a claim stays a claim and a fault stays the same fault.
-/

namespace DateCalculator.Token

section Split

variable {text lexeme kept cut : List Char}

theorem splitShape?_eq_none_of_append {shape : List Char}
    (declined : splitShape? shape (text ++ cut) = none) : splitShape? shape text = none := by
  cases found : splitShape? shape text with
  | none => rfl
  | some parts =>
      rw [splitShape?_append found cut] at declined
      contradiction

theorem splitShapes_cut {shapes : List (List Char)} {more : List Char}
    (found : splitShapes shapes text = (more, kept ++ cut)) :
    splitShapes shapes (more ++ kept) = (more, kept) := by
  induction shapes generalizing text more with
  | nil =>
      cases found
      rfl
  | cons shape shapes ih =>
      cases split : splitShape? shape text with
      | none =>
          rw [splitShapes_of_none split] at found
          obtain ⟨rfl, rfl⟩ := Prod.mk.inj found
          exact splitShapes_of_none (splitShape?_eq_none_of_append split) shapes
      | some parts =>
          rw [splitShapes_of_some split] at found
          obtain ⟨rfl, behind⟩ := Prod.mk.inj found
          have later := ih (Prod.ext rfl behind)
          have again := splitShape?_eq_some_iff.mpr
            ⟨Eq.refl (parts.1 ++ ((splitShapes shapes parts.2).1 ++ kept)),
              (splitShape?_eq_some_iff.mp split).2⟩
          rw [List.append_assoc, splitShapes_of_some again, later]

theorem splitDate?_cut (found : splitDate? text = some (lexeme, kept ++ cut)) :
    splitDate? (lexeme ++ kept) = some (lexeme, kept) := by
  obtain ⟨⟨date, afterDate⟩, shaped, same⟩ := Option.map_eq_some_iff.mp found
  obtain ⟨rfl, behind⟩ := Prod.mk.inj same
  have later := splitShapes_cut (Prod.ext rfl behind)
  have again := splitShape?_eq_some_iff.mpr
    ⟨Eq.refl (date ++ ((splitShapes timeShapes afterDate).1 ++ kept)),
      (splitShape?_eq_some_iff.mp shaped).2⟩
  rw [List.append_assoc, splitDate?_of_some again, later]

theorem splitNow?_cut (found : splitNow? text = some (lexeme, kept ++ cut)) :
    splitNow? (lexeme ++ kept) = some (lexeme, kept) := by
  obtain ⟨rfl, rfl⟩ := eq_of_splitNow? found
  cases kept with
  | nil => rfl
  | cons next kept =>
      cases word : isWordCharacter next with
      | true => simp [splitNow?, word] at found
      | false => simp [splitNow?, word]

theorem stopped_of_dropWhile {kind : Char → Bool} (dropped : text.dropWhile kind = kept ++ cut) :
    ∀ first ∈ kept.head?, kind first = false := by
  intro first leading
  obtain ⟨kept, rfl⟩ := List.head?_eq_some_iff.mp leading
  have stopped := List.head?_dropWhile_not kind text
  rw [dropped] at stopped
  simpa using stopped

theorem takeWhile_cut {kind : Char → Bool} (dropped : text.dropWhile kind = kept ++ cut) :
    (text.takeWhile kind ++ kept).takeWhile kind = text.takeWhile kind := by
  rw [takeWhile_append_of_stopped (stopped_of_dropWhile dropped), List.takeWhile_idem]

theorem dropWhile_cut {kind : Char → Bool} (dropped : text.dropWhile kind = kept ++ cut) :
    (text.takeWhile kind ++ kept).dropWhile kind = kept := by
  have ended := List.dropWhile_eq_nil_iff.mpr fun _ => @List.mem_takeWhile_imp _ kind text _
  rw [dropWhile_append_of_stopped (stopped_of_dropWhile dropped), ended, List.nil_append]

theorem splitDuration?_cut (found : splitDuration? text = some (lexeme, kept ++ cut)) :
    splitDuration? (lexeme ++ kept) = some (lexeme, kept) := by
  obtain ⟨first, afterFirst, rfl, letter, rfl, behind⟩ := eq_of_splitDuration? found
  rw [List.cons_append, splitDuration?, if_pos letter, takeWhile_cut behind.symm,
    dropWhile_cut behind.symm]

theorem splitSymbol?_cut (found : splitSymbol? text = some (lexeme, kept ++ cut)) :
    splitSymbol? (lexeme ++ kept) = some (lexeme, kept) := by
  obtain ⟨symbol, -, known, rfl⟩ := eq_of_splitSymbol? found
  exact if_pos known

theorem splitNumber_cut (split : splitNumber text = (lexeme, kept ++ cut)) :
    splitNumber (lexeme ++ kept) = (lexeme, kept) := by
  by_cases pointed : ∃ afterPoint, text.dropWhile Char.isDigit = '.' :: afterPoint
  · obtain ⟨afterPoint, point⟩ := pointed
    rw [splitNumber_of_point point] at split
    obtain ⟨rfl, behind⟩ := Prod.mk.inj split
    have digits : ∀ digit ∈ text.takeWhile Char.isDigit, digit.isDigit = true :=
      fun _ => List.mem_takeWhile_imp
    rw [List.append_assoc, List.cons_append,
      splitNumber_of_point ((List.dropWhile_append_of_pos digits).trans rfl),
      List.takeWhile_append_of_pos digits, takeWhile_cut behind, dropWhile_cut behind]
    simp
  · have whole : ∀ afterPoint, text.dropWhile Char.isDigit ≠ '.' :: afterPoint :=
      fun afterPoint point => pointed ⟨afterPoint, point⟩
    rw [splitNumber_of_no_point whole] at split
    obtain ⟨rfl, behind⟩ := Prod.mk.inj split
    have unpointed : ∀ afterPoint, (text.takeWhile Char.isDigit ++ kept).dropWhile Char.isDigit ≠
        '.' :: afterPoint := by
      intro afterPoint point
      rw [dropWhile_cut behind] at point
      rw [point] at behind
      exact whole _ behind
    rw [splitNumber_of_no_point unpointed, takeWhile_cut behind, dropWhile_cut behind]

theorem splitNumber?_cut (found : splitNumber? text = some (lexeme, kept ++ cut)) :
    splitNumber? (lexeme ++ kept) = some (lexeme, kept) := by
  obtain ⟨nonempty, split⟩ := eq_of_splitNumber? found
  rw [splitNumber?, splitNumber_cut split]
  exact if_neg nonempty

theorem split?_cut {category : Category} (member : category ∈ categories)
    (found : category.split? text = some (lexeme, kept ++ cut)) :
    category.split? (lexeme ++ kept) = some (lexeme, kept) := by
  rcases mem_categories.mp member with rfl | rfl | rfl | rfl | rfl
  · exact splitDate?_cut found
  · exact splitNow?_cut found
  · exact splitDuration?_cut found
  · exact splitSymbol?_cut found
  · exact splitNumber?_cut found

end Split

section Apart

/-- No lexeme of the one category begins like one of the other. -/
def Category.Apart (category other : Category) : Prop :=
  ∀ first, category.initial first = true → other.initial first = false

theorem Category.Apart.symm {category other : Category} (apart : category.Apart other) :
    other.Apart category := by
  intro first initial
  cases claims : category.initial first with
  | false => rfl
  | true =>
      rw [apart first claims] at initial
      contradiction

theorem nows_apart {other : Category} (disjoint : other.initial 'n' = false) :
    nows.Apart other :=
  fun _ initial => of_decide_eq_true initial ▸ disjoint

theorem durations_apart {other : Category} (disjoint : ['p', 'P'].any other.initial = false) :
    durations.Apart other := by
  intro first initial
  refine Bool.eq_false_iff.mpr ?_
  exact List.any_eq_false.mp disjoint first (by simpa [durations] using initial)

theorem symbols_apart {other : Category} (disjoint : allSymbols.any other.initial = false) :
    symbols.Apart other :=
  fun _ initial => other_of_isSymbol initial disjoint

/-- A category that declines a text declines it also when it is cut behind what a later one splits
from it. -/
def Yields (earlier later : Category) : Prop :=
  ∀ text lexeme kept cut, earlier.split? text = none →
    later.split? text = some (lexeme, kept ++ cut) → earlier.split? (lexeme ++ kept) = none

theorem Category.Apart.yields {earlier later : Category} (apart : earlier.Apart later) :
    Yields earlier later := by
  intro text lexeme kept cut _ found
  obtain ⟨first, tail, rfl⟩ := List.exists_cons_of_ne_nil (later.ne_nil found)
  have whole := later.append_eq found
  rw [List.cons_append] at whole
  subst whole
  cases claims : earlier.initial first with
  | false => exact earlier.split?_eq_none claims (tail ++ kept)
  | true =>
      have initial := later.initial_of found
      rw [apart first claims] at initial
      contradiction

theorem dates_yields (later : Category) : Yields dates later := by
  intro text lexeme kept cut declined found
  have whole := later.append_eq found
  rw [← List.append_assoc] at whole
  subst whole
  exact splitDate?_eq_none_iff.mpr
    (splitShape?_eq_none_of_append (splitDate?_eq_none_iff.mp declined))

theorem categories_yield : categories.Pairwise Yields := by
  have now (later : Category) (disjoint : later.initial 'n' = false) : Yields nows later :=
    (nows_apart disjoint).yields
  have duration (later : Category) (disjoint : ['p', 'P'].any later.initial = false) :
      Yields durations later := (durations_apart disjoint).yields
  have symbol (later : Category) (disjoint : allSymbols.any later.initial = false) :
      Yields symbols later := (symbols_apart disjoint).yields
  simp only [categories, List.pairwise_cons, List.forall_mem_cons, List.not_mem_nil, false_imp_iff,
    implies_true, and_true, List.Pairwise.nil]
  exact ⟨⟨dates_yields _, dates_yields _, dates_yields _, dates_yields _⟩,
    ⟨now _ rfl, now _ rfl, now _ rfl⟩, ⟨duration _ rfl, duration _ rfl⟩, symbol _ rfl⟩

end Apart

/-- Of all categories, this is the first one that splits anything from the text. -/
structure FirstSplit (category : Category) (text lexeme rest : List Char) : Prop where
  first : ∃ earlier later, categories = earlier ++ category :: later ∧
    ∀ other ∈ earlier, other.split? text = none
  splits : category.split? text = some (lexeme, rest)

namespace FirstSplit

variable {category : Category} {text lexeme kept cut rest : List Char}

theorem member (split : FirstSplit category text lexeme rest) : category ∈ categories := by
  obtain ⟨earlier, later, ordered, -⟩ := split.first
  simp [ordered]

theorem firstMatch?_eq (split : FirstSplit category text lexeme rest) (before : Option Token) :
    firstMatch? recognizers before text = category.rule before text := by
  obtain ⟨earlier, later, ordered, declined⟩ := split.first
  have silent : ∀ other ∈ earlier.map Category.rule, other before text = .ok none := by
    intro other member
    obtain ⟨sooner, among, rfl⟩ := List.mem_map.mp member
    exact Category.rule_of_none (declined sooner among) before
  have claims : category.rule before text ≠ .ok none := by
    rw [ne_eq, Category.rule_eq_none_iff, split.splits]
    exact Option.some_ne_none _
  rw [recognizers_eq, ordered, List.map_append, List.map_cons,
    firstMatch?_append_of_declined silent, firstMatch?_cons_of_claim claims]

/-- The lexeme is split first also where the text is cut somewhere behind it. -/
theorem cutBehind (split : FirstSplit category text lexeme (kept ++ cut)) :
    FirstSplit category (lexeme ++ kept) lexeme kept where
  first := by
    obtain ⟨earlier, later, ordered, declined⟩ := split.first
    refine ⟨earlier, later, ordered, fun other among => ?_⟩
    have yields := categories_yield
    rw [ordered] at yields
    exact (List.pairwise_append.mp yields).2.2 other among category List.mem_cons_self
      text lexeme kept cut (declined other among) split.splits
  splits := split?_cut split.member split.splits

end FirstSplit

section Cut

variable {before : Option Token} {text kept cut : List Char}

theorem declined_or_firstSplit (text : List Char) :
    (∀ category ∈ categories, category.split? text = none) ∨
      ∃ category lexeme rest, FirstSplit category text lexeme rest := by
  cases found : categories.find? fun category => (category.split? text).isSome with
  | none =>
      left
      simpa using found
  | some category =>
      right
      obtain ⟨some, earlier, later, ordered, declined⟩ := List.find?_eq_some_iff_append.mp found
      obtain ⟨⟨lexeme, rest⟩, splits⟩ := Option.isSome_iff_exists.mp some
      exact ⟨category, lexeme, rest, ⟨earlier, later, ordered, by simpa using declined⟩, splits⟩

theorem firstMatch?_eq_none_iff :
    firstMatch? recognizers before text = .ok none ↔
      ∀ category ∈ categories, category.split? text = none := by
  constructor
  · intro unclaimed
    rcases declined_or_firstSplit text with declined | ⟨category, lexeme, rest, split⟩
    · exact declined
    · rw [split.firstMatch?_eq, Category.rule_eq_none_iff, split.splits] at unclaimed
      contradiction
  · intro declined
    rw [recognizers_eq]
    refine firstMatch?_of_declined fun rule member => ?_
    obtain ⟨category, among, rfl⟩ := List.mem_map.mp member
    exact Category.rule_of_none (declined category among) before

theorem exists_firstSplit (claims : firstMatch? recognizers before text ≠ .ok none) :
    ∃ category lexeme rest, FirstSplit category text lexeme rest :=
  (declined_or_firstSplit text).resolve_left fun declined =>
    claims (firstMatch?_eq_none_iff.mpr declined)

theorem firstSplit_of_claim {found : Match text}
    (claimed : firstMatch? recognizers before text = .ok (some found)) :
    ∃ category, FirstSplit category text found.lexeme found.rest ∧
      category.reading before found.lexeme = .ok found.token := by
  obtain ⟨category, lexeme, rest, split⟩ :=
    @exists_firstSplit before text (by simp [claimed])
  rw [split.firstMatch?_eq] at claimed
  obtain ⟨splits, reads⟩ := Category.rule_eq_some_iff.mp claimed
  exact ⟨category, ⟨split.first, splits⟩, reads⟩

theorem firstSplit_of_misread {misreading : Misreading}
    (misread : firstMatch? recognizers before text = .error misreading) :
    ∃ category rest, FirstSplit category text misreading.lexeme rest ∧
      category.reading before misreading.lexeme = .error misreading.fault := by
  obtain ⟨category, lexeme, rest, split⟩ :=
    @exists_firstSplit before text (by simp [misread])
  rw [split.firstMatch?_eq] at misread
  obtain ⟨left, splits, reads⟩ := Category.rule_eq_error_iff.mp misread
  exact ⟨category, left, ⟨split.first, splits⟩, reads⟩

def Match.cutBehind (found : Match text) (kept : List Char) : Match (found.lexeme ++ kept) where
  token := found.token
  lexeme := found.lexeme
  rest := kept
  lexeme_ne_nil := found.lexeme_ne_nil
  append_eq := rfl

/-- A claim does not depend on how much is left behind its lexeme. -/
theorem firstMatch?_cutBehind {found : Match text}
    (claimed : firstMatch? recognizers before text = .ok (some found))
    (parted : found.rest = kept ++ cut) :
    firstMatch? recognizers before (found.lexeme ++ kept) = .ok (some (found.cutBehind kept)) := by
  obtain ⟨category, split, reads⟩ := firstSplit_of_claim claimed
  rw [parted] at split
  have shorter := split.cutBehind
  rw [shorter.firstMatch?_eq, Category.rule_eq_some_iff]
  exact ⟨shorter.splits, reads⟩

/-- A fault does not depend on what follows the faulty lexeme. -/
theorem misread_alone {misreading : Misreading}
    (misread : firstMatch? recognizers before text = .error misreading) :
    firstMatch? recognizers before misreading.lexeme = .error misreading := by
  obtain ⟨category, rest, split, reads⟩ := firstSplit_of_misread misread
  have uncut : FirstSplit category text misreading.lexeme ([] ++ rest) := split
  have shorter := uncut.cutBehind
  rw [List.append_nil] at shorter
  rw [shorter.firstMatch?_eq, Category.rule_eq_error_iff]
  exact ⟨[], shorter.splits, reads⟩

end Cut

end DateCalculator.Token
