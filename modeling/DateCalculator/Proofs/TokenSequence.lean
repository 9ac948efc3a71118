import DateCalculator.Token.Scan

/-!
What a scan guarantees about the order of its tokens, and about its failures. Operands never follow
each other, a minus is unary exactly where nothing stands to its left, and every operator is known.
-/

namespace DateCalculator.Token

def AtStart (before : Option Token) : Prop := (before.map opensOperand).getD true = true

/-- What the lexical rules see to when they claim a token behind another one. -/
def Fits (before : Option Token) : Token → Prop
  | .unaryMinus => AtStart before
  | .operator symbol => ∃ operator : Operator, symbol = operator.symbol ∧
      (operator = .subtract → ¬AtStart before)
  | _ => True

def Separated (before : Option Token) (token : Token) : Prop :=
  ∀ left, before = some left → ¬(left.isOperand = true ∧ token.isOperand = true)

def Chained : Option Token → List Token → Prop
  | _, [] => True
  | before, token :: tokens =>
      Fits before token ∧ Separated before token ∧ Chained (some token) tokens

def Sound (rule : Recognizer) : Prop :=
  ∀ (before : Option Token) (text : List Char) (found : Match text),
    rule before text = .ok (some found) → Fits before found.token

theorem recognizeDate_sound : Sound recognizeDate := by
  intro before text found claimed
  unfold recognizeDate at claimed
  split at claimed
  · simp at claimed
  · split at claimed
    · simp only [Except.ok.injEq, Option.some.injEq] at claimed
      subst found
      trivial
    · contradiction

theorem recognizeNow_sound : Sound recognizeNow := by
  intro before text found claimed
  unfold recognizeNow at claimed
  split at claimed
  · split at claimed
    · simp at claimed
    · simp only [Except.ok.injEq, Option.some.injEq] at claimed
      subst found
      trivial
  · simp at claimed

theorem recognizeDuration_sound : Sound recognizeDuration := by
  intro before text found claimed
  unfold recognizeDuration at claimed
  split at claimed
  · simp at claimed
  · split at claimed
    · dsimp only at claimed
      split at claimed
      · simp only [Except.ok.injEq, Option.some.injEq] at claimed
        subst found
        trivial
      · contradiction
    · simp at claimed

theorem recognizeNumber_sound : Sound recognizeNumber := by
  intro before text found claimed
  unfold recognizeNumber at claimed
  split at claimed
  · simp at claimed
  · split at claimed
    · contradiction
    · split at claimed
      · simp only [Except.ok.injEq, Option.some.injEq] at claimed
        subst found
        trivial
      · contradiction

theorem fits_of_ofSymbol? {before : Option Token} {symbol : Char} {token : Token}
    (found : ofSymbol? before symbol = some token) : Fits before token := by
  unfold ofSymbol? at found
  split at found
  case h_6 =>
    split at found
    · rename_i start
      cases found
      exact start
    · rename_i inside
      cases found
      exact ⟨.subtract, rfl, fun _ => inside⟩
  case h_1 => cases found; exact ⟨.add, rfl, by simp⟩
  case h_2 => cases found; exact ⟨.multiply, rfl, by simp⟩
  case h_3 => cases found; exact ⟨.divide, rfl, by simp⟩
  case h_4 => cases found; trivial
  case h_5 => cases found; trivial
  case h_7 => contradiction

theorem recognizeSymbol_sound : Sound recognizeSymbol := by
  intro before text found claimed
  unfold recognizeSymbol at claimed
  split at claimed
  · simp at claimed
  · simp only [Except.ok.injEq, Option.map_eq_some_iff] at claimed
    obtain ⟨token, symbol, rfl⟩ := claimed
    exact fits_of_ofSymbol? symbol

theorem recognizers_sound : ∀ rule ∈ recognizers, Sound rule := by
  intro rule member
  simp only [recognizers, List.mem_cons, List.not_mem_nil, or_false] at member
  rcases member with rfl | rfl | rfl | rfl | rfl
  · exact recognizeDate_sound
  · exact recognizeNow_sound
  · exact recognizeDuration_sound
  · exact recognizeSymbol_sound
  · exact recognizeNumber_sound

theorem firstMatch?_fits {rules : List Recognizer} (sound : ∀ rule ∈ rules, Sound rule)
    {before : Option Token} {text : List Char} {found : Match text}
    (claimed : firstMatch? rules before text = .ok (some found)) : Fits before found.token := by
  induction rules with
  | nil => simp [firstMatch?] at claimed
  | cons rule rules ih =>
      rw [firstMatch?] at claimed
      split at claimed
      · exact ih (fun other member => sound other (List.mem_cons_of_mem rule member)) claimed
      · exact sound rule List.mem_cons_self before text found claimed

theorem separated_of_clash? {before : Option Token} {token : Token}
    (free : clash? before token = none) : Separated before token := by
  rintro left rfl ⟨leftOperand, operand⟩
  simp [clash?, leftOperand, operand] at free

theorem scan_chained {rules : List Recognizer} (sound : ∀ rule ∈ rules, Sound rule)
    {position : Nat} {before : Option Token} {text : List Char} {tokens : List Token}
    (scanned : scan rules position before text = .ok tokens) : Chained before tokens := by
  fun_induction scan rules position before text generalizing tokens with
  | case1 =>
      cases scanned
      trivial
  | case5 position before first rest found claimed free tail _ ih =>
      cases scanned
      exact ⟨firstMatch?_fits sound claimed, separated_of_clash? free, ih ‹_›⟩
  | case2 | case3 | case4 | case6 => contradiction

theorem tokenize_chained {text : String} {tokens : List Token}
    (scanned : tokenize text = .ok tokens) : Chained none tokens :=
  scan_chained recognizers_sound scanned

def Known (tokens : List Token) : Prop :=
  ∀ symbol, .operator symbol ∈ tokens → ∃ operator : Operator, symbol = operator.symbol

def isKnown : Token → Bool
  | .operator symbol => (Operator.ofSymbol? symbol).isSome
  | _ => true

theorem known_iff {tokens : List Token} :
    Known tokens ↔ ∀ token ∈ tokens, token.isKnown = true := by
  constructor
  · intro known token member
    cases token with
    | operator symbol =>
        obtain ⟨operator, rfl⟩ := known symbol member
        rw [isKnown, Operator.ofSymbol?_symbol, Option.isSome_some]
    | literal | now | unaryMinus | leftParenthesis | rightParenthesis => rfl
  · intro known symbol member
    obtain ⟨operator, found⟩ := Option.isSome_iff_exists.mp (known _ member)
    have same : operator.symbol = symbol := by simpa using List.find?_some found
    exact ⟨operator, same.symm⟩

instance (tokens : List Token) : Decidable (Known tokens) := decidable_of_iff' _ known_iff

theorem Known.tail {token : Token} {tokens : List Token} (known : Known (token :: tokens)) :
    Known tokens :=
  fun symbol member => known symbol (List.mem_cons_of_mem token member)

theorem Chained.known {before : Option Token} {tokens : List Token}
    (chained : Chained before tokens) : Known tokens := by
  induction tokens generalizing before with
  | nil => exact fun symbol member => absurd member List.not_mem_nil
  | cons token tokens ih =>
      obtain ⟨fits, -, rest⟩ := chained
      intro symbol member
      rcases List.mem_cons.mp member with same | later
      · subst token
        obtain ⟨operator, same, -⟩ := fits
        exact ⟨operator, same⟩
      · exact ih rest symbol later

end DateCalculator.Token
