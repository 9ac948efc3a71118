import DateCalculator.Proofs.PrintableTokens
import DateCalculator.Proofs.Segmentation
import DateCalculator.Proofs.ShiftOutcome
import DateCalculator.Proofs.StackEvaluation

/-!
Which failures are reported. Every kind of failure that an expression can have is named, but for two
that oversized durations cause: amounts that cannot be carried, and texts that cannot be written.
-/

namespace DateCalculator

namespace Failure

inductive Category where
  | invalidCharacter | invalidNumber | invalidDate | invalidDuration | invalidExpression
  | typeMismatch | divisionByZero | unknownOperator | outOfRange
  deriving DecidableEq

def lexicalCategory : LexicalFault → Category
  | .character => .invalidCharacter
  | .number => .invalidNumber
  | .numberTooLarge => .invalidNumber
  | .date => .invalidDate
  | .duration => .invalidDuration

def category? : Failure → Option Category
  | lexical fault _ _ => some (lexicalCategory fault)
  | unjoinedOperands _ _ => some .invalidExpression
  | minusWithoutOperand => some .invalidExpression
  | missingOperands _ => some .invalidExpression
  | nothingToEvaluate => some .invalidExpression
  | unjoinedValues _ => some .invalidExpression
  | unknownOperator _ => some .unknownOperator
  | mismatchedOperands _ _ _ => some .typeMismatch
  | mismatchedOperand _ => some .typeMismatch
  | divisionByZero => some .divisionByZero
  | notFinite _ _ => some .outOfRange
  | durationTooLong _ => some .outOfRange
  | millisecondsOutOfRange _ => some .outOfRange
  | outsideCalendar _ _ _ => some .outOfRange
  | offsetTooLarge => none
  | numeralTooLong => none
  | unrankedOperator _ => none

theorem isSome_category? (failure : Failure) :
    failure.category?.isSome = failure.message?.isSome := by
  cases failure <;> rfl

end Failure

/-- A failure that is of no reported kind. -/
def Unreported {Result : Type} (result : Except Failure Result) : Prop :=
  ∃ failure, result = .error failure ∧ failure.category? = none

section Unreported

variable {First Second : Type}

@[simp] theorem not_unreported_ok (value : First) : ¬Unreported (.ok value) := by
  rintro ⟨failure, same, -⟩
  contradiction

@[simp] theorem unreported_error {failure : Failure} :
    Unreported (.error failure : Except Failure First) ↔ failure.category? = none := by
  constructor
  · rintro ⟨other, same, missing⟩
    cases same
    exact missing
  · exact fun missing => ⟨failure, rfl, missing⟩

theorem unreported_map {result : Except Failure First} {change : First → Second} :
    Unreported (result.map change) ↔ Unreported result := by
  cases result with
  | ok value => simp [Except.map]
  | error failure => simp [Except.map]

theorem unreported_bind {result : Except Failure First} {next : First → Except Failure Second} :
    Unreported (result >>= next) ↔
      Unreported result ∨ ∃ value, result = .ok value ∧ Unreported (next value) := by
  cases result with
  | ok value => simp [bind, Except.bind]
  | error failure => simp [bind, Except.bind]

end Unreported

namespace Duration

theorem printable_of_fitsDouble {span : Duration}
    (fits : Number.FitsDouble span.totalMilliseconds) : span.Printable :=
  printable_of_fits (Numeral.fits_of_fitsDouble fits)

end Duration

namespace Arithmetic

theorem refuse_category? {values : List Value} {failure : Failure} {category : Failure.Category}
    (reported : failure.category? = some category) :
    (refuse values failure).category? = none ↔ ¬∀ value ∈ values, value.Printable := by
  unfold refuse
  by_cases printable : ∀ value ∈ values, value.Printable
  · rw [if_pos printable, reported]
    exact ⟨nofun, fun unprintable => absurd printable unprintable⟩
  · rw [if_neg printable]
    exact ⟨fun _ => printable, fun _ => rfl⟩

/-- The operands that an operator has no reported failure for: durations that are too large to be
carried, where it shifts, and too large to be written out, where it has to refuse them. -/
def Oversized : Operator → Value → Value → Prop
  | .add, .dateTime _, .duration span => ¬span.Shiftable
  | .add, .duration span, .dateTime _ => ¬span.Shiftable
  | .subtract, .dateTime _, .duration span => ¬span.Shiftable
  | .multiply, .duration span, .number _ => ¬span.Printable
  | .multiply, .number _, .duration span => ¬span.Printable
  | .divide, .duration span, .number divisor => (divisor == 0) = false ∧ ¬span.Printable
  | .divide, .duration left, .duration right =>
      right.totalMilliseconds ≠ 0 ∧
        (¬left.Printable ∨ Number.FitsDouble left.totalMilliseconds ∧ ¬right.Printable)
  | operator, left, right =>
      resultKind? operator left.kind right.kind = none ∧ ¬(left.Printable ∧ right.Printable)

theorem unreported_shift (moment : DateTime) (forward : Bool) (span : Duration) :
    Unreported (shift moment forward span) ↔ ¬span.Shiftable := by
  by_cases shiftable : span.Shiftable
  · rcases shift_of_shiftable shiftable moment forward with ⟨shifted, same⟩ | same
    · simp [same, shiftable]
    · simp [same, shiftable, Failure.category?]
  · rcases shift_of_not_shiftable shiftable moment forward with same | same
    · simp [same, shiftable, Failure.category?]
    · simp [same, shiftable, Failure.category?]

theorem lengthOf_of_fits {span : Duration} (fits : Number.FitsDouble span.totalMilliseconds) :
    lengthOf span = .ok (Float.ofInt span.totalMilliseconds) := by
  have converted : Number.ofInt? span.totalMilliseconds = some (Float.ofInt _) := if_pos fits
  unfold lengthOf
  rw [converted]

theorem lengthOf_of_not_fits {span : Duration}
    (large : ¬Number.FitsDouble span.totalMilliseconds) :
    lengthOf span = .error (refuse [.duration span] (.durationTooLong span)) := by
  have converted : Number.ofInt? span.totalMilliseconds = none := if_neg large
  unfold lengthOf
  rw [converted]

theorem exists_lengthOf (span : Duration) :
    (∃ length, lengthOf span = .ok length) ↔ Number.FitsDouble span.totalMilliseconds := by
  by_cases fits : Number.FitsDouble span.totalMilliseconds
  · exact ⟨fun _ => fits, fun _ => ⟨_, lengthOf_of_fits fits⟩⟩
  · rw [lengthOf_of_not_fits fits]
    constructor
    · rintro ⟨length, same⟩
      contradiction
    · exact fun other => absurd other fits

theorem shift_ends_iff_shiftable (moment : DateTime) (forward : Bool) (span : Duration) :
    ((∃ shifted, shift moment forward span = .ok (.dateTime shifted)) ∨
      ∃ failure, shift moment forward span = .error failure ∧
        failure.category? = some .outOfRange) ↔ span.Shiftable := by
  by_cases shiftable : span.Shiftable
  · refine (iff_true_right shiftable).mpr ?_
    rcases shift_of_shiftable shiftable moment forward with shifted | same
    · exact .inl shifted
    · exact .inr ⟨_, same, rfl⟩
  · obtain ⟨failure, failed, missing⟩ := (unreported_shift moment forward span).mpr shiftable
    refine (iff_false_right shiftable).mpr ?_
    rw [failed]
    rintro (⟨shifted, same⟩ | ⟨other, same, found⟩)
    · cases same
    · cases same
      exact absurd (missing.symm.trans found) nofun

theorem unreported_lengthOf (span : Duration) :
    Unreported (lengthOf span) ↔ ¬span.Printable := by
  by_cases fits : Number.FitsDouble span.totalMilliseconds
  · have printable := Duration.printable_of_fitsDouble fits
    rw [lengthOf_of_fits fits]
    simp [printable]
  · rw [lengthOf_of_not_fits fits, unreported_error, refuse_category? rfl]
    simp only [List.mem_singleton, forall_eq, Value.Printable]

theorem not_unreported_ofLength (milliseconds : Float) : ¬Unreported (ofLength milliseconds) := by
  unfold ofLength
  split
  · exact not_unreported_ok _
  · simp [Failure.category?]

theorem not_unreported_finite (left right result : Float) :
    ¬Unreported (finite left right result) := by
  unfold finite
  split
  · exact not_unreported_ok _
  · simp [Failure.category?]

theorem not_unreported_quotient (left right : Float) : ¬Unreported (quotient left right) := by
  unfold quotient
  split
  · simp [Failure.category?]
  · exact not_unreported_finite left right _

theorem unreported_lengthOf_bind {span : Duration} {next : Float → Except Failure Value}
    {Fails : Prop} (continued : ∀ length, Unreported (next length) ↔ Fails) :
    Unreported (lengthOf span >>= next) ↔
      ¬span.Printable ∨ Number.FitsDouble span.totalMilliseconds ∧ Fails := by
  simp only [unreported_bind, unreported_lengthOf, continued, exists_and_right, exists_lengthOf]

theorem unreported_lengthOf_bind_ofLength {span : Duration} {change : Float → Float} :
    Unreported (lengthOf span >>= fun length => ofLength (change length)) ↔ ¬span.Printable := by
  have continued (length : Float) : Unreported (ofLength (change length)) ↔ False :=
    iff_false_intro (not_unreported_ofLength _)
  rw [unreported_lengthOf_bind continued, and_false, or_false]

theorem unreported_scale (span : Duration) (factor : Float) :
    Unreported (scale span factor) ↔ ¬span.Printable :=
  unreported_lengthOf_bind_ofLength

theorem unreported_shrink (span : Duration) (divisor : Float) :
    Unreported (shrink span divisor) ↔ (divisor == 0) = false ∧ ¬span.Printable := by
  unfold shrink
  by_cases zero : (divisor == 0) = true
  · simp [zero, Failure.category?]
  · rw [if_neg zero, unreported_lengthOf_bind_ofLength]
    simp [zero]

theorem unreported_ratio (left right : Duration) :
    Unreported (ratio left right) ↔ right.totalMilliseconds ≠ 0 ∧
      (¬left.Printable ∨ Number.FitsDouble left.totalMilliseconds ∧ ¬right.Printable) := by
  have lengths : Unreported (do
        let dividend ← lengthOf left
        let divisor ← lengthOf right
        ofLength (dividend / divisor)) ↔
      ¬left.Printable ∨ Number.FitsDouble left.totalMilliseconds ∧ ¬right.Printable :=
    unreported_lengthOf_bind fun _ => unreported_lengthOf_bind_ofLength
  unfold ratio
  split
  · rename_i zero
    rw [unreported_error]
    exact ⟨nofun, fun ⟨nonzero, _⟩ => absurd zero nonzero⟩
  · rename_i nonzero
    exact lengths.trans (and_iff_right nonzero).symm

theorem unreported_mismatch (operator : Operator) (left right : Value) :
    Unreported (.error (refuse [left, right] (.mismatchedOperands operator left right)) :
      Except Failure Value) ↔ ¬(left.Printable ∧ right.Printable) := by
  rw [unreported_error, refuse_category? rfl]
  simp only [List.forall_mem_cons, List.not_mem_nil, false_implies, implies_true, and_true]

theorem unreported_operate (operator : Operator) (left right : Value) :
    Unreported (operate operator left right) ↔ Oversized operator left right := by
  cases operator <;> cases left <;> cases right <;>
    simp only [operate, Oversized, resultKind?, Value.kind, unreported_shift, unreported_scale,
      unreported_shrink, unreported_ratio, unreported_mismatch, not_unreported_finite,
      not_unreported_quotient, not_unreported_ok, reduceCtorEq, false_and, true_and]

theorem unreported_apply (symbol : String) (left right : Value) :
    Unreported (apply symbol left right) ↔
      ∃ operator : Operator, symbol = operator.symbol ∧ Oversized operator left right := by
  unfold apply
  cases found : Operator.ofSymbol? symbol with
  | none =>
      constructor
      · intro unreported
        simp [Failure.category?] at unreported
      · rintro ⟨operator, rfl, -⟩
        rw [Operator.ofSymbol?_symbol] at found
        contradiction
  | some operator =>
      have same : operator.symbol = symbol := by
        simpa using List.find?_some found
      dsimp only
      rw [unreported_operate]
      constructor
      · exact fun oversized => ⟨operator, same.symm, oversized⟩
      · rintro ⟨other, rfl, oversized⟩
        rw [Operator.ofSymbol?_symbol, Option.some.injEq] at found
        exact found ▸ oversized

theorem not_unreported_negate (operand : Value) : ¬Unreported (negate operand) := by
  cases operand with
  | number number => exact not_unreported_ok _
  | duration span => exact not_unreported_ok _
  | dateTime moment => simp [negate, Failure.category?]

end Arithmetic

namespace Evaluation

theorem unreported_result (stack : List Value) :
    Unreported (result stack) ↔ ∃ value, stack = [value] ∧ ¬value.Printable := by
  rcases stack with _ | ⟨value, _ | ⟨below, stack⟩⟩
  · simp [result, Failure.category?]
  · by_cases printable : value.Printable
    · rw [result_singleton printable]
      simp [printable]
    · rw [result_unprintable printable]
      simp [printable, Failure.category?]
  · simp [result, Failure.category?]

theorem unreported_step (token : Token) (stack : List Value) :
    Unreported (step token stack) ↔ ∃ operator right left rest, token = .ofOperator operator ∧
      stack = right :: left :: rest ∧ Arithmetic.Oversized operator left right := by
  cases token with
  | literal value => simp [step, Token.ofOperator]
  | now | leftParenthesis | rightParenthesis =>
      simp [step, Token.ofOperator, Failure.category?]
  | unaryMinus =>
      cases stack with
      | nil => simp [step, Failure.category?]
      | cons operand stack =>
          simp [step, unreported_map, Arithmetic.not_unreported_negate, Token.ofOperator]
  | operator symbol =>
      rcases stack with _ | ⟨right, _ | ⟨left, rest⟩⟩
      · simp [step, Failure.category?]
      · simp [step, Failure.category?]
      · rw [step, unreported_map, Arithmetic.unreported_apply]
        constructor
        · rintro ⟨operator, rfl, oversized⟩
          exact ⟨operator, right, left, rest, rfl, rfl, oversized⟩
        · rintro ⟨operator, _, _, _, sameToken, sameStack, oversized⟩
          cases sameToken
          cases sameStack
          exact ⟨operator, rfl, oversized⟩

/-- A run comes to a value that cannot be written out, or to operands too large for an operator. -/
def Overflows (clock : Clock) (reads : Nat) (tokens : List Token) : Prop :=
  (∃ value count, Reaches clock tokens [] reads [value] count ∧ ¬value.Printable) ∨
    ∃ before operator after left right stack count,
      tokens = before ++ .ofOperator operator :: after ∧
        Reaches clock before [] reads (right :: left :: stack) count ∧
        Arithmetic.Oversized operator left right

theorem unreported_evaluate (clock : Clock) (reads : Nat) (tokens : List Token) :
    Unreported (evaluate clock reads tokens).result ↔ Overflows clock reads tokens := by
  constructor
  · intro unreported
    have ended := ends_reduce clock tokens [] reads
    rw [← evaluate] at ended
    generalize evaluate clock reads tokens = outcome at unreported ended
    cases ended with
    | finished reached =>
        obtain ⟨value, rfl, unprintable⟩ := (unreported_result _).mp unreported
        exact .inl ⟨value, _, reached, unprintable⟩
    | @stopped before token _ _ last count failure after reached other failed =>
        have missing := unreported_error.mp unreported
        obtain ⟨operator, right, left, stack, rfl, rfl, oversized⟩ :=
          (unreported_step token last).mp ⟨failure, failed, missing⟩
        exact .inr ⟨before, operator, after, left, right, stack, count, rfl, reached, oversized⟩
  · rintro (⟨value, count, reached, unprintable⟩ |
      ⟨before, operator, after, left, right, stack, count, rfl, reached, oversized⟩)
    · have whole := reached.reduce_append []
      rw [List.append_nil] at whole
      rw [evaluate, whole]
      exact (unreported_result _).mpr ⟨value, rfl, unprintable⟩
    · have unreported := (unreported_step (.ofOperator operator) (right :: left :: stack)).mpr
        ⟨operator, right, left, stack, rfl, rfl, oversized⟩
      obtain ⟨failure, failed, missing⟩ := unreported
      have other : Token.ofOperator operator ≠ .now := fun same => Token.noConfusion same
      rw [evaluate, reached.reduce_append, reduce_cons other, failed]
      exact ⟨failure, rfl, missing⟩

end Evaluation

namespace Token

theorem not_unreported_scan (rules : List Recognizer) (position : Nat) (text : List Char) :
    ¬Unreported (scan rules position none text) := by
  rintro ⟨failure, failed, missing⟩
  have unscanned : Unscanned (fun _ => True) failure :=
    unscanned_of_scan (fun _ _ _ _ _ _ => trivial) (by simp) failed
  cases unscanned <;> contradiction

end Token

namespace Calculator

theorem unreported_calculate (clock : Clock) (reads : Nat) (text : String) :
    Unreported (calculate clock reads text).result ↔
      ∃ tokens ordered, Token.tokenize text = .ok tokens ∧
        ReversePolish.ofInfix tokens = .ok ordered ∧
        Evaluation.Overflows clock reads ordered := by
  cases scanned : Token.tokenize text with
  | error failure =>
      have reported := Token.not_unreported_scan Token.recognizers 0
        (Text.withoutBlanks text.toList)
      have same : Token.scan Token.recognizers 0 none (Text.withoutBlanks text.toList) =
          .error failure := scanned
      rw [same] at reported
      simpa [calculate, scanned] using reported
  | ok tokens =>
      obtain ⟨ordered, converted⟩ := exists_ofInfix_of_tokenize scanned
      rw [calculate_of_tokenize scanned, calculateTokens_of_ofInfix converted]
      simp [converted, Evaluation.unreported_evaluate]

/-- An expression fails without a report exactly if its evaluation comes to a value that cannot be
written out or to operands too large for an operator. In particular a shift leads to a moment or is
reported to be out of range exactly if the duration can be written out and carried. -/
theorem unreported_calculate_iff_overflows (clock : Clock) (reads : Nat) (text : String)
    (moment : DateTime) (forward : Bool) (span : Duration) :
    (Unreported (calculate clock reads text).result ↔
      ∃ tokens ordered, Token.tokenize text = .ok tokens ∧
        ReversePolish.ofInfix tokens = .ok ordered ∧
        Evaluation.Overflows clock reads ordered) ∧
    (((∃ shifted, Arithmetic.shift moment forward span = .ok (.dateTime shifted)) ∨
      ∃ failure, Arithmetic.shift moment forward span = .error failure ∧
        failure.category? = some .outOfRange) ↔ span.Shiftable) :=
  ⟨unreported_calculate clock reads text,
    Arithmetic.shift_ends_iff_shiftable moment forward span⟩

def manyMonths : Duration := .ofAmounts false fun
  | .month => Nat.pow 10 309
  | _ => 0

theorem not_shiftable_manyMonths : ¬manyMonths.Shiftable := by
  rintro ⟨-, -, -, -, -, months⟩
  revert months
  decide +kernel

theorem not_shift_ends :
    ¬∀ (moment : DateTime) (forward : Bool) (span : Duration),
      (∃ shifted, Arithmetic.shift moment forward span = .ok (.dateTime shifted)) ∨
        ∃ failure, Arithmetic.shift moment forward span = .error failure ∧
          failure.category? = some .outOfRange := by
  intro ends
  have ended := ends .earliest true manyMonths
  rw [Arithmetic.shift_ends_iff_shiftable] at ended
  exact not_shiftable_manyMonths ended

end Calculator

end DateCalculator
