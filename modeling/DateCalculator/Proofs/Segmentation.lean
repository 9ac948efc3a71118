import DateCalculator.Proofs.TokenSequence

/-!
Scans as segmentations. A scan cuts its text into lexemes, each claimed by the first rule that
claims anything there, until nothing is left or nothing more can be read. No segmentation has more
lexemes than its text has characters.
-/

namespace DateCalculator.Token

structure Segment where
  token : Token
  lexeme : List Char
  deriving DecidableEq

def Match.segment {text : List Char} (found : Match text) : Segment := ⟨found.token, found.lexeme⟩

def lexemes (segments : List Segment) : List Char := segments.flatMap Segment.lexeme

@[simp] theorem lexemes_nil : lexemes [] = [] := rfl

@[simp] theorem lexemes_cons (segment : Segment) (segments : List Segment) :
    lexemes (segment :: segments) = segment.lexeme ++ lexemes segments := rfl

/-- The token in front of the text behind some segments. -/
def lastToken (before : Option Token) (segments : List Segment) : Option Token :=
  (segments.getLast?.map Segment.token).or before

theorem lastToken_cons (before : Option Token) (segment : Segment) (segments : List Segment) :
    lastToken before (segment :: segments) = lastToken (some segment.token) segments := by
  cases segments with
  | nil => rfl
  | cons next segments => simp [lastToken, List.getLast?_cons]

section Declined

variable {earlier : List Recognizer} {before : Option Token} {text : List Char}

theorem firstMatch?_append_of_declined (declined : ∀ other ∈ earlier, other before text = .ok none)
    (later : List Recognizer) :
    firstMatch? (earlier ++ later) before text = firstMatch? later before text := by
  induction earlier with
  | nil => rfl
  | cons first rest ih =>
      rw [List.cons_append, firstMatch?, declined first List.mem_cons_self]
      exact ih fun other member => declined other (List.mem_cons_of_mem first member)

theorem firstMatch?_of_declined (declined : ∀ other ∈ earlier, other before text = .ok none) :
    firstMatch? earlier before text = .ok none := by
  have skipped := firstMatch?_append_of_declined declined []
  rwa [List.append_nil] at skipped

theorem firstMatch?_cons_of_claim {rule : Recognizer} (claims : rule before text ≠ .ok none)
    (later : List Recognizer) : firstMatch? (rule :: later) before text = rule before text := by
  rw [firstMatch?]
  split
  · contradiction
  · rfl

end Declined

/-- The first rule that claims anything makes this claim; the rules before it decline. -/
def ClaimedFirst (rules : List Recognizer) (before : Option Token) (text : List Char)
    (found : Match text) : Prop :=
  ∃ earlier rule later, rules = earlier ++ rule :: later ∧
    (∀ other ∈ earlier, other before text = .ok none) ∧ rule before text = .ok (some found)

theorem firstMatch?_eq_some_iff {rules : List Recognizer} {before : Option Token}
    {text : List Char} {found : Match text} :
    firstMatch? rules before text = .ok (some found) ↔ ClaimedFirst rules before text found := by
  induction rules with
  | nil => simp [firstMatch?, ClaimedFirst]
  | cons rule rules ih =>
      rw [firstMatch?]
      constructor
      · intro claimed
        split at claimed
        · rename_i declined
          obtain ⟨earlier, first, later, rfl, before, claims⟩ := ih.mp claimed
          exact ⟨rule :: earlier, first, later, rfl, by simpa [declined] using before, claims⟩
        · exact ⟨[], rule, rules, rfl, by simp, claimed⟩
      · rintro ⟨_ | ⟨head, earlier⟩, first, later, same, declined, claims⟩
        · obtain ⟨rfl, rfl⟩ := List.cons.inj same
          rw [claims]
        · obtain ⟨rfl, rfl⟩ := List.cons.inj same
          rw [declined rule List.mem_cons_self]
          exact ih.mpr ⟨earlier, first, later, rfl,
            fun other member => declined other (List.mem_cons_of_mem rule member), claims⟩

theorem exists_rule_of_claim {rules : List Recognizer} {before : Option Token} {text : List Char}
    {found : Match text} (claimed : firstMatch? rules before text = .ok (some found)) :
    ∃ rule ∈ rules, rule before text = .ok (some found) := by
  obtain ⟨earlier, rule, later, rfl, -, claims⟩ := firstMatch?_eq_some_iff.mp claimed
  exact ⟨rule, by simp, claims⟩

/-- The text begins with these segments, and this is the rest of it. -/
inductive Segmentation (rules : List Recognizer) :
    Option Token → List Char → List Segment → List Char → Prop
  | done {before text} : Segmentation rules before text [] text
  | segment {before text segments rest} (found : Match text) :
      firstMatch? rules before text = .ok (some found) → clash? before found.token = none →
      Segmentation rules (some found.token) found.rest segments rest →
      Segmentation rules before text (found.segment :: segments) rest

/-- Nothing more can be read, for this reason. -/
inductive Halts (rules : List Recognizer) (position : Nat) (before : Option Token)
    (text : List Char) : Failure → Prop
  | misread {misreading} : text ≠ [] → firstMatch? rules before text = .error misreading →
      Halts rules position before text (misreading.at position)
  | unclaimed {first rest} : text = first :: rest → firstMatch? rules before text = .ok none →
      Halts rules position before text (.lexical .character (String.singleton first) position)
  | unjoined {found failure} : firstMatch? rules before text = .ok (some found) →
      clash? before found.token = some failure → Halts rules position before text failure

section Scan

variable {rules : List Recognizer} {before : Option Token} {text rest : List Char}
  {segments : List Segment}

namespace Segmentation

theorem append_eq (segmented : Segmentation rules before text segments rest) :
    lexemes segments ++ rest = text := by
  induction segmented with
  | done => rfl
  | segment found _ _ _ ih =>
      rw [lexemes_cons, List.append_assoc, ih]
      exact found.append_eq

theorem length_le (segmented : Segmentation rules before text segments rest) :
    segments.length + rest.length ≤ text.length := by
  induction segmented with
  | done => exact Nat.le_of_eq (Nat.zero_add _)
  | segment found _ _ _ ih =>
      have shorter := found.rest_shorter
      rw [List.length_cons]
      omega

/-- What holds of every segment that a rule claims holds of all segments. -/
theorem forall_segment {property : Segment → Prop}
    (claims : ∀ rule ∈ rules, ∀ (before : Option Token) (text : List Char) (found : Match text),
      rule before text = .ok (some found) → property found.segment)
    (segmented : Segmentation rules before text segments rest) :
    ∀ segment ∈ segments, property segment := by
  induction segmented with
  | done => simp
  | segment found claimed _ _ ih =>
      obtain ⟨rule, member, claim⟩ := exists_rule_of_claim claimed
      intro segment among
      rcases List.mem_cons.mp among with rfl | later
      · exact claims rule member _ _ found claim
      · exact ih segment later

theorem lexeme_ne_nil (segmented : Segmentation rules before text segments rest) :
    ∀ segment ∈ segments, segment.lexeme ≠ [] :=
  segmented.forall_segment fun _ _ _ _ found _ => found.lexeme_ne_nil

/-- Each segment is the first claim at its place in the text. -/
theorem claimed_at {read left : List Segment} {segment : Segment} {source : List Char}
    (segmented : Segmentation rules before text (read ++ segment :: left) rest)
    (place : source = segment.lexeme ++ (lexemes left ++ rest)) :
    ∃ found : Match source, found.segment = segment ∧
      ClaimedFirst rules (lastToken before read) source found := by
  induction read generalizing before text with
  | nil =>
      cases segmented with
      | segment found claimed free behind =>
          have same : source = text := by
            rw [place, behind.append_eq]
            exact found.append_eq
          subst same
          exact ⟨found, rfl, firstMatch?_eq_some_iff.mp claimed⟩
  | cons first read ih =>
      cases segmented with
      | segment found claimed free behind =>
          rw [lastToken_cons]
          exact ih behind

end Segmentation

theorem separated_none (token : Token) : Separated none token := by
  rintro left ⟨⟩

theorem clash?_eq_none {token : Token} (separated : Separated before token) :
    clash? before token = none := by
  unfold clash?
  split
  · rename_i left
    refine if_neg fun operands => separated left rfl ?_
    simpa using operands
  · rfl

theorem exists_left_of_clash? {token : Token} {failure : Failure}
    (clash : clash? before token = some failure) :
    ∃ left, before = some left ∧ failure = .unjoinedOperands left token := by
  unfold clash? at clash
  split at clash
  · rename_i left
    split at clash
    · cases clash
      exact ⟨left, rfl, rfl⟩
    · contradiction
  · contradiction

theorem scan_of_claim {found : Match text}
    (claimed : firstMatch? rules before text = .ok (some found)) (position : Nat) :
    scan rules position before text =
      match clash? before found.token with
      | some failure => .error failure
      | none => (scan rules (position + found.lexeme.length) (some found.token) found.rest).map
          (found.token :: ·) := by
  cases text with
  | nil => exact absurd (List.append_eq_nil_iff.mp found.append_eq).1 found.lexeme_ne_nil
  | cons first text =>
      rw [scan, claimed]
      dsimp only
      cases clash? before found.token with
      | some failure => rfl
      | none =>
          dsimp only
          cases scan rules (position + found.lexeme.length) (some found.token) found.rest <;> rfl

/-- Scanning a text is scanning what some segments have left of it. -/
theorem Segmentation.scan_eq (segmented : Segmentation rules before text segments rest)
    (position : Nat) :
    scan rules position before text =
      (scan rules (position + (lexemes segments).length) (lastToken before segments) rest).map
        (segments.map Segment.token ++ ·) := by
  induction segmented generalizing position with
  | @done before text =>
      change scan rules position before text = (scan rules position before text).map id
      cases scan rules position before text <;> rfl
  | segment found claimed free _ ih =>
      rw [scan_of_claim claimed, free, ih, lastToken_cons, lexemes_cons, List.length_append,
        ← Nat.add_assoc]
      dsimp only [Match.segment]
      cases scan rules _ _ _ <;> rfl

theorem Halts.scan_eq {position : Nat} {failure : Failure}
    (halts : Halts rules position before text failure) :
    scan rules position before text = .error failure := by
  cases halts with
  | misread nonempty misread =>
      obtain ⟨first, left, rfl⟩ := List.exists_cons_of_ne_nil nonempty
      rw [scan, misread]
  | unclaimed same unclaimed =>
      subst text
      rw [scan, unclaimed]
  | unjoined claimed clash => rw [scan_of_claim claimed, clash]

/-- Every scan comes to the end of a segmentation, which is all of the text or where it halts. -/
theorem exists_segmentation (rules : List Recognizer) (position : Nat) (before : Option Token)
    (text : List Char) :
    ∃ segments rest, Segmentation rules before text segments rest ∧
      (rest = [] ∨ ∃ failure, Halts rules (position + (lexemes segments).length)
        (lastToken before segments) rest failure) := by
  fun_induction scan rules position before text with
  | case1 position before => exact ⟨[], [], .done, .inl rfl⟩
  | case2 position before first rest misreading misread =>
      exact ⟨[], _, .done, .inr ⟨_, .misread (List.cons_ne_nil first rest) misread⟩⟩
  | case3 position before first rest unclaimed =>
      exact ⟨[], _, .done, .inr ⟨_, .unclaimed rfl unclaimed⟩⟩
  | case4 position before first rest found claimed failure clash =>
      exact ⟨[], _, .done, .inr ⟨_, .unjoined claimed clash⟩⟩
  | case5 position before first rest found claimed free tokens scanned ih
  | case6 position before first rest found claimed free failure failed ih =>
      obtain ⟨segments, left, behind, ended⟩ := ih
      refine ⟨found.segment :: segments, left, .segment found claimed free behind, ?_⟩
      rw [lastToken_cons, lexemes_cons, List.length_append, ← Nat.add_assoc]
      exact ended

theorem scan_eq_ok_iff {position : Nat} {tokens : List Token} :
    scan rules position before text = .ok tokens ↔
      ∃ segments, Segmentation rules before text segments [] ∧
        segments.map Segment.token = tokens := by
  constructor
  · intro scanned
    obtain ⟨segments, rest, segmented, rfl | ⟨failure, halts⟩⟩ :=
      exists_segmentation rules position before text
    · rw [segmented.scan_eq, scan] at scanned
      cases scanned
      exact ⟨segments, segmented, (List.append_nil _).symm⟩
    · rw [segmented.scan_eq, halts.scan_eq] at scanned
      contradiction
  · rintro ⟨segments, segmented, rfl⟩
    rw [segmented.scan_eq, scan]
    exact congrArg Except.ok (List.append_nil _)

/-- What holds of every token that a rule claims holds of every token that is scanned. -/
theorem forall_of_scan {property : Token → Prop}
    (claims : ∀ rule ∈ rules, ∀ (before : Option Token) (text : List Char) (found : Match text),
      rule before text = .ok (some found) → property found.token)
    {position : Nat} {tokens : List Token}
    (scanned : scan rules position before text = .ok tokens) : ∀ token ∈ tokens, property token := by
  obtain ⟨segments, segmented, rfl⟩ := scan_eq_ok_iff.mp scanned
  intro token member
  obtain ⟨segment, among, rfl⟩ := List.mem_map.mp member
  have each : ∀ segment ∈ segments, property segment.token := segmented.forall_segment claims
  exact each segment among

/-- What a scan fails with: something that is no token, or two tokens of this property. -/
inductive Unscanned (property : Token → Prop) : Failure → Prop
  | lexical (fault lexeme position) : Unscanned property (.lexical fault lexeme position)
  | unjoinedOperands {left right} : property left → property right →
      Unscanned property (.unjoinedOperands left right)

theorem unscanned_of_scan {property : Token → Prop}
    (claims : ∀ rule ∈ rules, ∀ (before : Option Token) (text : List Char) (found : Match text),
      rule before text = .ok (some found) → property found.token)
    (first : ∀ left ∈ before, property left) {position : Nat} {failure : Failure}
    (failed : scan rules position before text = .error failure) : Unscanned property failure := by
  have claimed {before : Option Token} {text : List Char} {found : Match text}
      (claim : firstMatch? rules before text = .ok (some found)) : property found.token := by
    obtain ⟨rule, member, claim⟩ := exists_rule_of_claim claim
    exact claims rule member before text found claim
  fun_induction scan rules position before text with
  | case1 position before => contradiction
  | case2 position before first rest misreading misread =>
      cases failed
      exact .lexical _ _ _
  | case3 position before first rest unclaimed =>
      cases failed
      exact .lexical _ _ _
  | case4 position before first rest found claim other clash =>
      cases failed
      obtain ⟨left, rfl, rfl⟩ := exists_left_of_clash? clash
      exact .unjoinedOperands (first left rfl) (claimed claim)
  | case5 position before first rest found claim free tokens scanned ih => contradiction
  | case6 position before first rest found claim free other scanned ih =>
      cases failed
      refine ih ?_ scanned
      rintro left ⟨⟩
      exact claimed claim

end Scan

end DateCalculator.Token
