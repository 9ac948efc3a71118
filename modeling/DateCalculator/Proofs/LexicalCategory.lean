import DateCalculator.Proofs.Segmentation

/-!
The lexical rules by category. Each rule splits a lexeme of its kind from the front of the text, no
matter what comes before it, and reads the token from the lexeme alone. So what a rule does to a
longer text is a question about its splitting.
-/

namespace DateCalculator.Token

/-- A kind of lexeme: what it may begin with, how it is split from the front of a text and how it is
read. -/
structure Category where
  initial : Char → Bool
  split? : List Char → Option (List Char × List Char)
  reading : Option Token → List Char → Except LexicalFault Token
  ne_nil {text lexeme rest : List Char} : split? text = some (lexeme, rest) → lexeme ≠ []
  append_eq {text lexeme rest : List Char} :
    split? text = some (lexeme, rest) → lexeme ++ rest = text
  initial_of {first : Char} {text lexeme rest : List Char} :
    split? (first :: text) = some (lexeme, rest) → initial first = true

namespace Category

def rule (category : Category) : Recognizer := fun before text =>
  match found : category.split? text with
  | none => .ok none
  | some (lexeme, rest) =>
      match category.reading before lexeme with
      | .ok token => .ok <| some {
          token, lexeme, rest
          lexeme_ne_nil := category.ne_nil found
          append_eq := category.append_eq found }
      | .error fault => .error ⟨fault, lexeme⟩

variable {category : Category} {text lexeme rest : List Char}

theorem rule_of_none (declined : category.split? text = none) (before : Option Token) :
    category.rule before text = .ok none := by
  unfold rule
  split
  · rfl
  · rename_i found
    rw [declined] at found
    contradiction

theorem rule_of_some (found : category.split? text = some (lexeme, rest))
    (before : Option Token) :
    category.rule before text =
      match category.reading before lexeme with
      | .ok token => .ok <| some
          ⟨token, lexeme, rest, category.ne_nil found, category.append_eq found⟩
      | .error fault => .error ⟨fault, lexeme⟩ := by
  unfold rule
  split
  · rename_i declined
    rw [declined] at found
    contradiction
  · rename_i other
    rw [found] at other
    cases other
    rfl

theorem split?_eq_none {first : Char} (other : category.initial first = false) (text : List Char) :
    category.split? (first :: text) = none := by
  cases found : category.split? (first :: text) with
  | none => rfl
  | some parts =>
      rw [category.initial_of found] at other
      contradiction

theorem rule_eq_some_iff {before : Option Token} {found : Match text} :
    category.rule before text = .ok (some found) ↔
      category.split? text = some (found.lexeme, found.rest) ∧
        category.reading before found.lexeme = .ok found.token := by
  constructor
  · intro claimed
    cases splits : category.split? text with
    | none =>
        simp [rule_of_none splits] at claimed
    | some parts =>
        rw [rule_of_some splits] at claimed
        split at claimed
        · rename_i token reads
          cases claimed
          exact ⟨rfl, reads⟩
        · contradiction
  · rintro ⟨splits, reads⟩
    rw [rule_of_some splits, reads]

theorem rule_eq_error_iff {before : Option Token} {misreading : Misreading} :
    category.rule before text = .error misreading ↔
      ∃ rest, category.split? text = some (misreading.lexeme, rest) ∧
        category.reading before misreading.lexeme = .error misreading.fault := by
  constructor
  · intro misread
    cases splits : category.split? text with
    | none => simp [rule_of_none splits] at misread
    | some parts =>
        rw [rule_of_some splits] at misread
        split at misread
        · contradiction
        · rename_i fault reads
          cases misread
          exact ⟨parts.2, rfl, reads⟩
  · rintro ⟨rest, splits, reads⟩
    rw [rule_of_some splits, reads]

theorem rule_eq_none_iff {before : Option Token} :
    category.rule before text = .ok none ↔ category.split? text = none := by
  refine ⟨fun declined => ?_, fun declined => rule_of_none declined before⟩
  cases splits : category.split? text with
  | none => rfl
  | some parts =>
      rw [rule_of_some splits] at declined
      split at declined
      · cases declined
      · contradiction

end Category

theorem isDigit_of_splitDate? {first : Char} {text lexeme rest : List Char}
    (found : splitDate? (first :: text) = some (lexeme, rest)) : first.isDigit = true := by
  obtain ⟨parts, shaped, -⟩ := Option.map_eq_some_iff.mp found
  simp only [dateShape, splitShape?] at shaped
  split at shaped
  · rename_i fits
    exact fits
  · contradiction

def dates : Category where
  initial := Char.isDigit
  split? := splitDate?
  reading _ lexeme :=
    match DateTime.read (String.ofList lexeme) with
    | .ok moment => .ok (.literal (.dateTime moment))
    | .error _ => .error .date
  ne_nil := ne_nil_of_splitDate?
  append_eq := append_of_splitDate?
  initial_of := isDigit_of_splitDate?

def splitNow? : List Char → Option (List Char × List Char)
  | 'n' :: 'o' :: 'w' :: rest =>
      if (rest.head?.map isWordCharacter).getD false then none else some (['n', 'o', 'w'], rest)
  | _ => none

theorem eq_of_splitNow? {text lexeme rest : List Char}
    (found : splitNow? text = some (lexeme, rest)) :
    lexeme = ['n', 'o', 'w'] ∧ text = lexeme ++ rest := by
  unfold splitNow? at found
  split at found
  · split at found
    · contradiction
    · cases found
      exact ⟨rfl, rfl⟩
  · contradiction

def nows : Category where
  initial := (· = 'n')
  split? := splitNow?
  reading _ _ := .ok .now
  ne_nil found := by rw [(eq_of_splitNow? found).1]; exact List.cons_ne_nil _ _
  append_eq found := (eq_of_splitNow? found).2.symm
  initial_of found := by
    obtain ⟨rfl, same⟩ := eq_of_splitNow? found
    exact decide_eq_true (List.cons.inj same).1

def splitDuration? : List Char → Option (List Char × List Char)
  | [] => none
  | first :: afterFirst =>
      if first = 'p' ∨ first = 'P' then
        some (first :: afterFirst.takeWhile Char.isAlphanum, afterFirst.dropWhile Char.isAlphanum)
      else none

theorem eq_of_splitDuration? {text lexeme rest : List Char}
    (found : splitDuration? text = some (lexeme, rest)) :
    ∃ first afterFirst, text = first :: afterFirst ∧ (first = 'p' ∨ first = 'P') ∧
      lexeme = first :: afterFirst.takeWhile Char.isAlphanum ∧
      rest = afterFirst.dropWhile Char.isAlphanum := by
  unfold splitDuration? at found
  split at found
  · contradiction
  · rename_i first afterFirst
    split at found
    · rename_i letter
      cases found
      exact ⟨first, afterFirst, rfl, letter, rfl, rfl⟩
    · contradiction

def durations : Category where
  initial first := first = 'p' || first = 'P'
  split? := splitDuration?
  reading _ lexeme :=
    match Duration.read (String.ofList lexeme) with
    | .ok span => .ok (.literal (.duration span))
    | .error _ => .error .duration
  ne_nil found := by
    obtain ⟨_, _, -, -, rfl, -⟩ := eq_of_splitDuration? found
    exact List.cons_ne_nil _ _
  append_eq found := by
    obtain ⟨_, _, rfl, -, rfl, rfl⟩ := eq_of_splitDuration? found
    rw [List.cons_append, List.takeWhile_append_dropWhile]
  initial_of found := by
    obtain ⟨_, _, same, letter, -⟩ := eq_of_splitDuration? found
    rw [(List.cons.inj same).1]
    simpa using letter

def isSymbol (character : Char) : Bool := (ofSymbol? none character).isSome

theorem isSome_ofSymbol? (before : Option Token) (character : Char) :
    (ofSymbol? before character).isSome = isSymbol character := by
  unfold isSymbol ofSymbol?
  split <;> first | rfl | (split <;> rfl)

theorem isOperand_of_ofSymbol? {before : Option Token} {symbol : Char} {token : Token}
    (found : ofSymbol? before symbol = some token) : token.isOperand = false := by
  unfold ofSymbol? at found
  split at found
  case h_6 => split at found <;> cases found <;> rfl
  case h_7 => contradiction
  all_goals
    cases found
    rfl

def splitSymbol? : List Char → Option (List Char × List Char)
  | [] => none
  | first :: rest => if isSymbol first then some ([first], rest) else none

theorem eq_of_splitSymbol? {text lexeme rest : List Char}
    (found : splitSymbol? text = some (lexeme, rest)) :
    ∃ symbol, text = symbol :: rest ∧ isSymbol symbol = true ∧ lexeme = [symbol] := by
  unfold splitSymbol? at found
  split at found
  · contradiction
  · rename_i first _
    split at found
    · rename_i symbol
      cases found
      exact ⟨first, rfl, symbol, rfl⟩
    · contradiction

def symbols : Category where
  initial := isSymbol
  split? := splitSymbol?
  reading before lexeme :=
    match lexeme.head?.bind (ofSymbol? before) with
    | some token => .ok token
    | none => .error .character
  ne_nil found := by
    obtain ⟨_, -, -, rfl⟩ := eq_of_splitSymbol? found
    exact List.cons_ne_nil _ _
  append_eq found := by
    obtain ⟨_, rfl, -, rfl⟩ := eq_of_splitSymbol? found
    rfl
  initial_of found := by
    obtain ⟨_, same, symbol, -⟩ := eq_of_splitSymbol? found
    rwa [(List.cons.inj same).1]

def splitNumber? (text : List Char) : Option (List Char × List Char) :=
  if (splitNumber text).1 = [] then none else some (splitNumber text)

theorem eq_of_splitNumber? {text lexeme rest : List Char}
    (found : splitNumber? text = some (lexeme, rest)) :
    lexeme ≠ [] ∧ splitNumber text = (lexeme, rest) := by
  unfold splitNumber? at found
  split at found
  · contradiction
  · rename_i nonempty
    rw [Option.some.injEq] at found
    rw [found] at nonempty
    exact ⟨nonempty, found⟩

def numbers : Category where
  initial first := first.isDigit || first = '.'
  split? := splitNumber?
  reading _ lexeme :=
    match numberOf? lexeme with
    | none => .error .number
    | some number =>
        if number.isFinite then .ok (.literal (.number number)) else .error .numberTooLarge
  ne_nil found := (eq_of_splitNumber? found).1
  append_eq {text _ _} found := by
    have whole := append_splitNumber text
    rwa [(eq_of_splitNumber? found).2] at whole
  initial_of {first text _ _} found := by
    obtain ⟨nonempty, split⟩ := eq_of_splitNumber? found
    by_cases digit : first.isDigit = true
    · simp [digit]
    · by_cases point : first = '.'
      · simp [point]
      · simp [splitNumber, digit, point] at split
        exact absurd split.1 nonempty

theorem recognizeDate_eq : recognizeDate = dates.rule := by
  funext before text
  unfold recognizeDate
  split
  · rename_i declined
    exact (Category.rule_of_none declined before).symm
  · rename_i lexeme rest found
    have splits : dates.split? text = some (lexeme, rest) := found
    rw [Category.rule_of_some splits]
    dsimp only [dates]
    cases DateTime.read (String.ofList lexeme) <;> rfl

theorem recognizeNow_eq : recognizeNow = nows.rule := by
  funext before text
  unfold recognizeNow
  split
  · rename_i rest
    split
    · rename_i word
      have declined : nows.split? ('n' :: 'o' :: 'w' :: rest) = none := if_pos word
      exact (Category.rule_of_none declined before).symm
    · rename_i ended
      have found : nows.split? ('n' :: 'o' :: 'w' :: rest) = some (['n', 'o', 'w'], rest) :=
        if_neg ended
      exact (Category.rule_of_some found before).symm
  · rename_i other
    have declined : nows.split? text = none := by
      change splitNow? text = none
      unfold splitNow?
      split
      · exact absurd rfl (other _)
      · rfl
    exact (Category.rule_of_none declined before).symm

theorem recognizeDuration_eq : recognizeDuration = durations.rule := by
  funext before text
  unfold recognizeDuration
  split
  · have declined : durations.split? [] = none := rfl
    exact (Category.rule_of_none declined before).symm
  · rename_i first afterFirst
    split
    · rename_i letter
      have found : durations.split? (first :: afterFirst) =
          some (first :: afterFirst.takeWhile Char.isAlphanum,
            afterFirst.dropWhile Char.isAlphanum) := if_pos letter
      rw [Category.rule_of_some found]
      dsimp only [durations]
      cases Duration.read _ <;> rfl
    · rename_i other
      have declined : durations.split? (first :: afterFirst) = none := if_neg other
      exact (Category.rule_of_none declined before).symm

theorem recognizeSymbol_eq : recognizeSymbol = symbols.rule := by
  funext before text
  unfold recognizeSymbol
  split
  · have declined : symbols.split? [] = none := rfl
    exact (Category.rule_of_none declined before).symm
  · rename_i first rest
    cases symbol : ofSymbol? before first with
    | none =>
        have declined : symbols.split? (first :: rest) = none := by
          have other : isSymbol first = false := by rw [← isSome_ofSymbol? before, symbol]; rfl
          exact if_neg (by simp [other])
        exact (Category.rule_of_none declined before).symm
    | some token =>
        have found : symbols.split? (first :: rest) = some ([first], rest) := by
          have known : isSymbol first = true := by rw [← isSome_ofSymbol? before, symbol]; rfl
          exact if_pos known
        rw [Category.rule_of_some found]
        dsimp only [symbols, List.head?_cons, Option.bind_some]
        rw [symbol]
        rfl

theorem recognizeNumber_eq : recognizeNumber = numbers.rule := by
  funext before text
  unfold recognizeNumber
  split
  · rename_i empty
    have declined : numbers.split? text = none := if_pos empty
    exact (Category.rule_of_none declined before).symm
  · rename_i nonempty
    have found : numbers.split? text = some ((splitNumber text).1, (splitNumber text).2) :=
      if_neg nonempty
    rw [Category.rule_of_some found]
    dsimp only [numbers]
    cases numberOf? (splitNumber text).1 with
    | none => rfl
    | some number =>
        dsimp only
        split <;> rfl

def categories : List Category := [dates, nows, durations, symbols, numbers]

theorem mem_categories {category : Category} :
    category ∈ categories ↔ category = dates ∨ category = nows ∨ category = durations ∨
      category = symbols ∨ category = numbers := by
  simp [categories]

theorem forall_mem_categories {property : Category → Prop} :
    (∀ category ∈ categories, property category) ↔
      property dates ∧ property nows ∧ property durations ∧ property symbols ∧
        property numbers := by
  simp [categories]

theorem recognizers_eq : recognizers = categories.map Category.rule := by
  rw [recognizers, recognizeDate_eq, recognizeNow_eq, recognizeDuration_eq, recognizeSymbol_eq,
    recognizeNumber_eq]
  rfl

theorem exists_category_of_rule {rule : Recognizer} (member : rule ∈ recognizers)
    {before : Option Token} {text : List Char} {found : Match text}
    (claims : rule before text = .ok (some found)) :
    ∃ category ∈ categories, category.split? text = some (found.lexeme, found.rest) ∧
      category.reading before found.lexeme = .ok found.token := by
  rw [recognizers_eq] at member
  obtain ⟨category, among, rfl⟩ := List.mem_map.mp member
  exact ⟨category, among, Category.rule_eq_some_iff.mp claims⟩

theorem exists_category {before : Option Token} {text : List Char} {found : Match text}
    (claimed : firstMatch? recognizers before text = .ok (some found)) :
    ∃ category ∈ categories, category.split? text = some (found.lexeme, found.rest) ∧
      category.reading before found.lexeme = .ok found.token := by
  obtain ⟨rule, member, claims⟩ := exists_rule_of_claim claimed
  exact exists_category_of_rule member claims

/-- The value of a literal is read from its lexeme. -/
inductive ReadFrom (lexeme : List Char) : Value → Prop
  | number {number} : numberOf? lexeme = some number → number.isFinite = true →
      ReadFrom lexeme (.number number)
  | dateTime {moment} : DateTime.read (String.ofList lexeme) = .ok moment →
      ReadFrom lexeme (.dateTime moment)
  | duration {span} : Duration.read (String.ofList lexeme) = .ok span →
      ReadFrom lexeme (.duration span)

theorem readFrom_of_reading {category : Category} (member : category ∈ categories)
    {before : Option Token} {lexeme : List Char} {value : Value}
    (reads : category.reading before lexeme = .ok (.literal value)) : ReadFrom lexeme value := by
  rcases mem_categories.mp member with rfl | rfl | rfl | rfl | rfl
  · simp only [dates] at reads
    split at reads
    · rename_i read
      cases reads
      exact .dateTime read
    · contradiction
  · cases reads
  · simp only [durations] at reads
    split at reads
    · rename_i read
      cases reads
      exact .duration read
    · contradiction
  · simp only [symbols] at reads
    split at reads
    · rename_i found
      cases reads
      obtain ⟨symbol, -, read⟩ := Option.bind_eq_some_iff.mp found
      exact Bool.noConfusion (isOperand_of_ofSymbol? read)
    · contradiction
  · simp only [numbers] at reads
    split at reads
    · contradiction
    · rename_i read
      split at reads
      · rename_i finite
        cases reads
        exact .number read finite
      · contradiction

theorem symbol_or_operand {category : Category} (member : category ∈ categories)
    {before : Option Token} {lexeme : List Char} {token : Token}
    (reads : category.reading before lexeme = .ok token) :
    category = symbols ∨ token.isOperand = true := by
  rcases mem_categories.mp member with rfl | rfl | rfl | rfl | rfl
  · simp only [dates] at reads
    split at reads <;> cases reads
    exact .inr rfl
  · cases reads
    exact .inr rfl
  · simp only [durations] at reads
    split at reads <;> cases reads
    exact .inr rfl
  · exact .inl rfl
  · simp only [numbers] at reads
    split at reads
    · contradiction
    · split at reads <;> cases reads
      exact .inr rfl

/-- A token read behind another one: a minus is binary unless nothing stands to its left. -/
def readAfter (before : Option Token) : Token → Token
  | .unaryMinus =>
      if (before.map opensOperand).getD true then .unaryMinus else .ofOperator .subtract
  | token => token

@[simp] theorem isOperand_readAfter (before : Option Token) (token : Token) :
    (readAfter before token).isOperand = token.isOperand := by
  cases token with
  | unaryMinus => simp only [readAfter]; split <;> rfl
  | _ => rfl

theorem readAfter_of_atStart {before : Option Token} (start : AtStart before) (token : Token) :
    readAfter before token = token := by
  cases token with
  | unaryMinus => exact if_pos start
  | _ => rfl

theorem ofSymbol?_after (before : Option Token) (symbol : Char) :
    ofSymbol? before symbol = (ofSymbol? none symbol).map (readAfter before) := by
  unfold ofSymbol?
  split
  case h_6 =>
    simp only [readAfter, Option.map_none, Option.getD_none, if_true, Option.map_some]
    split <;> rfl
  all_goals rfl

/-- What stands before a text only decides what its minus is. -/
theorem reading_after {category : Category} (member : category ∈ categories)
    (before : Option Token) (lexeme : List Char) :
    category.reading before lexeme = (category.reading none lexeme).map (readAfter before) := by
  rcases mem_categories.mp member with rfl | rfl | rfl | rfl | rfl
  · simp only [dates]
    cases DateTime.read (String.ofList lexeme) <;> rfl
  · rfl
  · simp only [durations]
    cases Duration.read (String.ofList lexeme) <;> rfl
  · simp only [symbols]
    cases lexeme with
    | nil => rfl
    | cons symbol _ =>
        simp only [List.head?_cons, Option.bind_some]
        rw [ofSymbol?_after before]
        cases ofSymbol? none symbol <;> rfl
  · simp only [numbers]
    cases numberOf? lexeme with
    | none => rfl
    | some number =>
        dsimp only
        split <;> rfl

def Match.after {text : List Char} (before : Option Token) (found : Match text) : Match text :=
  { found with token := readAfter before found.token }

@[simp] theorem Match.lexeme_after {text : List Char} (before : Option Token) (found : Match text) :
    (found.after before).lexeme = found.lexeme := rfl

theorem rule_after {category : Category} (member : category ∈ categories)
    (before : Option Token) (text : List Char) :
    category.rule before text =
      (category.rule none text).map (Option.map (Match.after before)) := by
  cases splits : category.split? text with
  | none => simp [Category.rule_of_none splits, Except.map]
  | some parts =>
      rw [Category.rule_of_some splits, Category.rule_of_some splits, reading_after member before]
      cases category.reading none parts.1 <;> rfl

theorem firstMatch?_after (before : Option Token) (text : List Char) :
    firstMatch? recognizers before text =
      (firstMatch? recognizers none text).map (Option.map (Match.after before)) := by
  rw [recognizers_eq]
  have general (chosen : List Category) (all : ∀ category ∈ chosen, category ∈ categories) :
      firstMatch? (chosen.map Category.rule) before text =
        (firstMatch? (chosen.map Category.rule) none text).map
          (Option.map (Match.after before)) := by
    induction chosen with
    | nil => rfl
    | cons category chosen ih =>
        have first := rule_after (all category List.mem_cons_self) before text
        have later := ih fun other member => all other (List.mem_cons_of_mem category member)
        rw [List.map_cons, firstMatch?, firstMatch?, first, later]
        rcases category.rule none text with misreading | _ | found <;> rfl
  exact general categories fun _ member => member

end DateCalculator.Token
