import DateCalculator.Proofs.LexemeCut

/-!
Scanning as a faithful segmentation. The lexemes of a scanned text are the text, blanks apart. Each
is what the first rule claims there, and means the same on its own, where a minus has nothing to its
left.
-/

namespace DateCalculator.Token

/-- A token that is no operand is written as one symbol. -/
theorem eq_symbol_of_claim {before : Option Token} {text : List Char} {found : Match text}
    (claimed : firstMatch? recognizers before text = .ok (some found))
    (joining : found.token.isOperand = false) :
    ∃ symbol, isSymbol symbol = true ∧ found.lexeme = [symbol] ∧
      ofSymbol? before symbol = some found.token := by
  obtain ⟨category, member, splits, reads⟩ := exists_category claimed
  rcases symbol_or_operand member reads with rfl | operand
  · obtain ⟨symbol, -, known, alone⟩ := eq_of_splitSymbol? splits
    simp only [symbols, alone, List.head?_cons, Option.bind_some] at reads
    split at reads
    · rename_i read
      cases reads
      exact ⟨symbol, known, alone, read⟩
    · contradiction
  · rw [joining] at operand
    contradiction

theorem eq_dash_of_ofSymbol? {before : Option Token} {symbol : Char}
    (minus : ofSymbol? before symbol = some .unaryMinus) : symbol = '-' := by
  unfold ofSymbol? at minus
  split at minus
  case h_6 => rfl
  all_goals cases minus

theorem token_eq_unaryMinus_iff {text : List Char} {found : Match text}
    (claimed : firstMatch? recognizers none text = .ok (some found)) :
    found.token = .unaryMinus ↔ found.lexeme = ['-'] := by
  constructor
  · intro minus
    obtain ⟨symbol, -, alone, read⟩ := eq_symbol_of_claim claimed (by rw [minus]; rfl)
    rw [minus] at read
    rw [alone, eq_dash_of_ofSymbol? read]
  · intro dash
    obtain ⟨category, member, splits, reads⟩ := exists_category claimed
    rw [dash] at splits reads
    generalize found.rest = rest at splits
    obtain rfl : '-' :: rest = text := category.append_eq splits
    have only : ∀ category ∈ categories, category.initial '-' = true → category = symbols :=
      forall_mem_categories.mpr ⟨nofun, nofun, nofun, fun _ => rfl, nofun⟩
    obtain rfl := only category member (category.initial_of splits)
    exact (Except.ok.inj reads).symm

/-- No number is read where a date is written. -/
theorem undated_of_number {before : Option Token} {text : List Char} {found : Match text}
    (claimed : firstMatch? recognizers before text = .ok (some found)) {number : Float}
    (numeric : found.token = .literal (.number number)) : splitDate? text = none := by
  cases dated : splitDate? text with
  | none => rfl
  | some parts =>
      have splits : dates.split? text = some parts := dated
      rw [recognizers_eq, categories, List.map_cons, firstMatch?,
        Category.rule_of_some splits] at claimed
      simp only [dates] at claimed
      cases moment : DateTime.read (String.ofList parts.1) with
      | error failure => simp [moment] at claimed
      | ok moment =>
          rw [moment] at claimed
          have same := Option.some.inj (Except.ok.inj claimed)
          rw [← same] at numeric
          cases numeric

/-- What a segment is read as with nothing to its left. -/
def Segment.initialToken (segment : Segment) : Token :=
  if segment.lexeme = ['-'] then .unaryMinus else segment.token

theorem exists_initial_claim {before : Option Token} {text : List Char} {found : Match text}
    (claimed : firstMatch? recognizers before text = .ok (some found)) :
    ∃ initial, firstMatch? recognizers none text = .ok (some initial) ∧
      initial.after before = found := by
  rw [firstMatch?_after] at claimed
  cases first : firstMatch? recognizers none text with
  | error misreading =>
      rw [first] at claimed
      cases claimed
  | ok claim =>
      rw [first] at claimed
      obtain ⟨initial, rfl, same⟩ := Option.map_eq_some_iff.mp (Except.ok.inj claimed)
      exact ⟨initial, rfl, same⟩

theorem initialToken_after {text : List Char} {initial : Match text}
    (claimed : firstMatch? recognizers none text = .ok (some initial)) (before : Option Token) :
    (initial.after before).segment.initialToken = initial.token := by
  have minus := token_eq_unaryMinus_iff claimed
  unfold Segment.initialToken
  split
  · rename_i dash
    exact (minus.mpr dash).symm
  · rename_i other
    change readAfter before initial.token = initial.token
    cases token : initial.token with
    | unaryMinus => exact absurd (minus.mp token) other
    | _ => rfl

/-- What is scanned of a text. -/
def source (text : String) : List Char := Text.withoutBlanks text.toList

theorem source_eq_self {characters : List Char}
    (unblank : ∀ character ∈ characters, Text.isBlank character = false) :
    source (String.ofList characters) = characters := by
  rw [source, String.toList_ofList]
  refine List.filter_eq_self.mpr fun character member => ?_
  rw [unblank character member]
  rfl

theorem tokenize_eq (text : String) : tokenize text = scan recognizers 0 none (source text) := rfl

theorem tokenize_lexeme {before : Option Token} {text : List Char} {found : Match text}
    (claimed : firstMatch? recognizers before text = .ok (some found))
    (unblank : ∀ character ∈ text, Text.isBlank character = false) :
    tokenize (String.ofList found.lexeme) = .ok [found.segment.initialToken] := by
  obtain ⟨initial, first, rfl⟩ := exists_initial_claim claimed
  have same : source (String.ofList initial.lexeme) = initial.lexeme :=
    source_eq_self fun character member =>
      unblank character (initial.append_eq ▸ List.mem_append_left initial.rest member)
  have alone := firstMatch?_cutBehind first (List.nil_append _).symm
  rw [initialToken_after first, Match.lexeme_after, tokenize_eq, same,
    ← List.append_nil initial.lexeme, scan_of_claim alone]
  change (scan recognizers _ _ []).map _ = _
  rw [scan]
  rfl

/-- The segments are the source, and each is the first claim at its place. -/
structure Faithful (source : List Char) (segments : List Segment) : Prop where
  concatenated : lexemes segments = source
  nonempty : ∀ segment ∈ segments, segment.lexeme ≠ []
  claimed : ∀ read segment left, segments = read ++ segment :: left →
    ∃ found : Match (segment.lexeme ++ lexemes left), found.segment = segment ∧
      ClaimedFirst recognizers (lastToken none read) (segment.lexeme ++ lexemes left) found
  readAlone : ∀ segment ∈ segments,
    tokenize (String.ofList segment.lexeme) = .ok [segment.initialToken]
  undated : ∀ read segment left number, segments = read ++ segment :: left →
    segment.token = .literal (.number number) →
      ∀ date rest, segment.lexeme ++ lexemes left = date ++ rest → ¬Shaped dateShape date

theorem lexemes_append (read left : List Segment) :
    lexemes (read ++ left) = lexemes read ++ lexemes left :=
  List.flatMap_append

theorem faithful_of_segmentation {source : List Char} {segments : List Segment}
    (unblank : ∀ character ∈ source, Text.isBlank character = false)
    (segmented : Segmentation recognizers none source segments []) : Faithful source segments := by
  have whole : lexemes segments = source := (List.append_nil _).symm.trans segmented.append_eq
  have claimed (read segment left) (place : segments = read ++ segment :: left) :
      ∃ found : Match (segment.lexeme ++ lexemes left), found.segment = segment ∧
        ClaimedFirst recognizers (lastToken none read) (segment.lexeme ++ lexemes left) found := by
    subst place
    exact segmented.claimed_at (by rw [List.append_nil])
  refine ⟨whole, segmented.lexeme_ne_nil, claimed, ?_, ?_⟩
  · intro segment member
    obtain ⟨read, left, place⟩ := List.append_of_mem member
    obtain ⟨found, same, first⟩ := claimed read segment left place
    have inside : ∀ character ∈ segment.lexeme ++ lexemes left, Text.isBlank character = false := by
      intro character among
      rw [place, lexemes_append, lexemes_cons] at whole
      exact unblank character (whole ▸ List.mem_append_right (lexemes read) among)
    have alone := tokenize_lexeme (firstMatch?_eq_some_iff.mpr first) inside
    rwa [← same]
  · intro read segment left number place numeric date rest split shaped
    obtain ⟨found, same, first⟩ := claimed read segment left place
    have token : found.token = segment.token := congrArg Segment.token same
    have declined := undated_of_number (firstMatch?_eq_some_iff.mpr first) (token.trans numeric)
    rw [splitDate?_eq_none_iff, splitShape?_eq_some_iff.mpr ⟨split.symm, shaped⟩] at declined
    contradiction

theorem Match.exists_stop {whole : List Char} {position : Nat}
    (found : Match (whole.drop position)) :
    ∃ stop, position < stop ∧ stop ≤ whole.length ∧
      found.lexeme = (whole.drop position).take (stop - position) ∧
      found.rest = whole.drop stop := by
  have positive := List.length_pos_iff.mpr found.lexeme_ne_nil
  have length := congrArg List.length found.append_eq
  rw [List.length_append, List.length_drop] at length
  refine ⟨position + found.lexeme.length, by omega, by omega, ?_, ?_⟩
  · rw [Nat.add_sub_cancel_left]
    exact List.prefix_iff_eq_take.mp ⟨found.rest, found.append_eq⟩
  · calc
      found.rest = (found.lexeme ++ found.rest).drop found.lexeme.length := by
        rw [List.drop_left]
      _ = (whole.drop position).drop found.lexeme.length := by rw [found.append_eq]
      _ = whole.drop (position + found.lexeme.length) := List.drop_drop

/-- What is scanned is segmented faithfully, every rule moves forward inside the text, and the scan
of any text ends within one step a character, at its end or where nothing more can be read. -/
theorem tokenize_segments (text : String) :
    (∀ tokens, tokenize text = .ok tokens →
        ∃ segments, segments.map Segment.token = tokens ∧ Faithful (source text) segments) ∧
      (∀ rule ∈ recognizers, ∀ (before : Option Token) (whole : List Char) (position : Nat)
          (found : Match (whole.drop position)),
        rule before (whole.drop position) = .ok (some found) →
          ∃ stop, position < stop ∧ stop ≤ whole.length ∧
            found.lexeme = (whole.drop position).take (stop - position) ∧
            found.rest = whole.drop stop) ∧
      ∃ segments rest, Segmentation recognizers none (source text) segments rest ∧
        segments.length ≤ (source text).length ∧
        (rest = [] ∧ tokenize text = .ok (segments.map Segment.token) ∨
          ∃ failure, Halts recognizers (lexemes segments).length (lastToken none segments) rest
            failure ∧ tokenize text = .error failure) := by
  refine ⟨?_, ?_, ?_⟩
  · intro tokens scanned
    obtain ⟨segments, segmented, same⟩ := scan_eq_ok_iff.mp scanned
    have unblank : ∀ character ∈ source text, Text.isBlank character = false :=
      fun _ => Text.not_isBlank_of_mem_withoutBlanks
    exact ⟨segments, same, faithful_of_segmentation unblank segmented⟩
  · intro rule _ before whole position found _
    exact found.exists_stop
  · obtain ⟨segments, rest, segmented, ended⟩ :=
      exists_segmentation recognizers 0 none (source text)
    have short := segmented.length_le
    rw [Nat.zero_add] at ended
    have scanned : tokenize text = _ := segmented.scan_eq 0
    refine ⟨segments, rest, segmented, by omega, ?_⟩
    rcases ended with rfl | ⟨failure, halts⟩
    · rw [scan] at scanned
      exact .inl ⟨rfl, scanned.trans (congrArg Except.ok (List.append_nil _))⟩
    · rw [Nat.zero_add, halts.scan_eq] at scanned
      exact .inr ⟨failure, halts, scanned⟩

theorem eq_ok_of_toOption {outcome : Except Failure (List Token)} {tokens : List Token}
    (scanned : outcome.toOption = some tokens) : outcome = .ok tokens := by
  cases outcome with
  | error failure => contradiction
  | ok known => exact congrArg Except.ok (Option.some.inj scanned)

theorem tokenize_elapsed :
    tokenize "now - now" = .ok [.now, .ofOperator .subtract, .now] :=
  eq_ok_of_toOption (by decide +kernel)

theorem tokenize_segments_elapsed :
    ∃ segments, segments.map Segment.token = [.now, .ofOperator .subtract, .now] ∧
      Faithful (source "now - now") segments :=
  (tokenize_segments "now - now").1 _ tokenize_elapsed

end DateCalculator.Token
