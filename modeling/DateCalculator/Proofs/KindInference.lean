import DateCalculator.Proofs.UnreportedFailures

/-!
Kinds of values, inferred before anything is evaluated. An evaluation ends in a value of the
inferred kind, or in the failure that the kinds foretell, unless a rule of arithmetic fails first.
Nothing else happens but for the failures that oversized durations cause.
-/

namespace DateCalculator

/-- A failure of a rule that has its operands: it divides by zero or leaves the range of values. -/
def Failure.Arithmetic (failure : Failure) : Prop :=
  failure.category? = some .divisionByZero ∨ failure.category? = some .outOfRange

/-- A value within all limits: a finite number, a moment, or a duration whose amounts and text have
numerals that can be written. -/
def Value.WithinLimits : Value → Prop
  | .number value => value.isFinite = true
  | .dateTime _ => True
  | .duration span => span.Printable ∧ ∀ unit, Numeral.Fits (span.magnitude unit)

/-- A step over kinds foretells a step over values: the values are of the kinds, or the failure has
the foretold category. A foretold success can still fail in a rule, and any failure can be
unreported. -/
inductive Agrees {Kinds Values : Type} (kinds : Values → Kinds) :
    Except Failure.Category Kinds → Except Failure Values → Prop
  | value (values : Values) : Agrees kinds (.ok (kinds values)) (.ok values)
  | arithmetic {inferred failure} : failure.Arithmetic → Agrees kinds (.ok inferred) (.error failure)
  | foretold {category failure} : failure.category? = some category →
      Agrees kinds (.error category) (.error failure)
  | unreported {inferred failure} : failure.category? = none →
      Agrees kinds inferred (.error failure)

section Agrees

variable {Kinds Values : Type} {kinds : Values → Kinds}

theorem Agrees.push {inferred : Except Failure.Category Kind} {found : Except Failure Value}
    (agrees : Agrees Value.kind inferred found) (stack : List Value) :
    Agrees (List.map Value.kind) (inferred.map (· :: stack.map Value.kind))
      (found.map (· :: stack)) := by
  cases agrees with
  | value value => exact .value (value :: stack)
  | arithmetic arithmetic => exact .arithmetic arithmetic
  | foretold known => exact .foretold known
  | unreported missing => exact .unreported missing

theorem Agrees.eq_of_ok {inferred : Except Failure.Category Kinds} {values : Values}
    (agrees : Agrees kinds inferred (.ok values)) : inferred = .ok (kinds values) := by
  cases agrees
  rfl

theorem agrees_outOfRange {inferred : Kinds} {failure : Failure}
    (outside : failure.category? = some .outOfRange) (values : List Value) :
    Agrees kinds (.ok inferred) (.error (Arithmetic.refuse values failure)) := by
  unfold Arithmetic.refuse
  split
  · exact .arithmetic (.inr outside)
  · exact .unreported rfl

end Agrees

namespace Arithmetic

theorem agrees_finite (left right result : Float) :
    Agrees Value.kind (.ok .number) (finite left right result) := by
  unfold finite
  split
  · exact .value (Value.number result)
  · exact .arithmetic (.inr rfl)

theorem agrees_quotient (left right : Float) :
    Agrees Value.kind (.ok .number) (quotient left right) := by
  unfold quotient
  split
  · exact .arithmetic (.inl rfl)
  · exact agrees_finite left right _

theorem agrees_shift (moment : DateTime) (forward : Bool) (span : Duration) :
    Agrees Value.kind (.ok .dateTime) (shift moment forward span) := by
  unfold shift
  split
  · exact .unreported rfl
  · split
    · rename_i shifted _
      exact .value (Value.dateTime shifted)
    · exact agrees_outOfRange rfl _

theorem agrees_ofLength (milliseconds : Float) :
    Agrees Value.kind (.ok .duration) (ofLength milliseconds) := by
  unfold ofLength
  split
  · rename_i total _
    exact .value (Value.duration (.ofMilliseconds total .millisecond))
  · exact .arithmetic (.inr rfl)

theorem agrees_lengthOf_bind (span : Duration) {next : Float → Except Failure Value}
    (later : ∀ length, Agrees Value.kind (.ok .duration) (next length)) :
    Agrees Value.kind (.ok .duration) (lengthOf span >>= next) := by
  by_cases fits : Number.FitsDouble span.totalMilliseconds
  · rw [lengthOf_of_fits fits]
    exact later _
  · rw [lengthOf_of_not_fits fits]
    exact agrees_outOfRange rfl _

theorem agrees_lengthOf_bind_ofLength (span : Duration) (change : Float → Float) :
    Agrees Value.kind (.ok .duration) (lengthOf span >>= fun length => ofLength (change length)) :=
  agrees_lengthOf_bind span fun length => agrees_ofLength (change length)

theorem agrees_scale (span : Duration) (factor : Float) :
    Agrees Value.kind (.ok .duration) (scale span factor) :=
  agrees_lengthOf_bind_ofLength span (· * factor)

theorem agrees_shrink (span : Duration) (divisor : Float) :
    Agrees Value.kind (.ok .duration) (shrink span divisor) := by
  unfold shrink
  split
  · exact .arithmetic (.inl rfl)
  · exact agrees_lengthOf_bind_ofLength span (· / divisor)

theorem agrees_ratio (left right : Duration) :
    Agrees Value.kind (.ok .duration) (ratio left right) := by
  unfold ratio
  split
  · exact .arithmetic (.inl rfl)
  · exact agrees_lengthOf_bind left fun dividend =>
      agrees_lengthOf_bind_ofLength right (dividend / ·)

theorem agrees_mismatch (operator : Operator) (left right : Value) :
    Agrees Value.kind (.error .typeMismatch)
      (.error (refuse [left, right] (.mismatchedOperands operator left right))) := by
  unfold refuse
  split
  · exact .foretold rfl
  · exact .unreported rfl

def operateKinds (operator : Operator) (left right : Kind) : Except Failure.Category Kind :=
  match resultKind? operator left right with
  | some kind => .ok kind
  | none => .error .typeMismatch

def applyKinds (symbol : String) (left right : Kind) : Except Failure.Category Kind :=
  match Operator.ofSymbol? symbol with
  | some operator => operateKinds operator left right
  | none => .error .unknownOperator

def negateKind : Kind → Except Failure.Category Kind
  | .number => .ok .number
  | .duration => .ok .duration
  | .dateTime => .error .typeMismatch

/-- Every rule gives a value of the kind that the table of the rules has for its operands. -/
theorem agrees_operate (operator : Operator) (left right : Value) :
    Agrees Value.kind (operateKinds operator left.kind right.kind)
      (operate operator left right) := by
  have duration (span : Duration) :
      Agrees Value.kind (.ok .duration) (.ok (.duration span)) := .value (Value.duration span)
  cases operator <;> cases left <;> cases right <;>
    simp only [operate, operateKinds, resultKind?, Value.kind, agrees_finite, agrees_quotient,
      agrees_shift, agrees_scale, agrees_shrink, agrees_ratio, agrees_mismatch, duration]

theorem agrees_apply (symbol : String) (left right : Value) :
    Agrees Value.kind (applyKinds symbol left.kind right.kind) (apply symbol left right) := by
  unfold applyKinds apply
  cases Operator.ofSymbol? symbol with
  | some operator => exact agrees_operate operator left right
  | none => exact .foretold rfl

theorem agrees_negate (operand : Value) :
    Agrees Value.kind (negateKind operand.kind) (negate operand) := by
  cases operand with
  | number number => exact .value (Value.number (-number))
  | duration span => exact .value (Value.duration span.negate)
  | dateTime moment => exact .foretold rfl

end Arithmetic

namespace Evaluation

open Arithmetic

/-- What a token does to the kinds on a stack, whose top comes first. -/
def stepKinds : Token → List Kind → Except Failure.Category (List Kind)
  | .literal value, kinds => .ok (value.kind :: kinds)
  | .now, kinds => .ok (.dateTime :: kinds)
  | .unaryMinus, operand :: kinds => (negateKind operand).map (· :: kinds)
  | .unaryMinus, [] => .error .invalidExpression
  | .operator symbol, right :: left :: kinds => (applyKinds symbol left right).map (· :: kinds)
  | .operator _, _ => .error .invalidExpression
  | _, _ => .error .unknownOperator

structure KindFault where
  category : Failure.Category
  position : Nat

/-- The kinds that tokens, the first of them at this position, leave on a stack. -/
def kindsFrom : Nat → List Token → List Kind → Except KindFault (List Kind)
  | _, [], kinds => .ok kinds
  | position, token :: tokens, kinds =>
      match stepKinds token kinds with
      | .ok next => kindsFrom (position + 1) tokens next
      | .error category => .error ⟨category, position⟩

/-- The kind that tokens in reverse Polish order have, or the fault and its position. Too few or too
many kinds in the end are a fault behind the last token. -/
def infer (tokens : List Token) : Except KindFault Kind :=
  match kindsFrom 0 tokens [] with
  | .ok [kind] => .ok kind
  | .ok _ => .error ⟨.invalidExpression, tokens.length⟩
  | .error fault => .error fault

theorem agrees_step {token : Token} (other : token ≠ .now) (stack : List Value) :
    Agrees (List.map Value.kind) (stepKinds token (stack.map Value.kind)) (step token stack) := by
  cases token with
  | literal value => exact .value (value :: stack)
  | now => contradiction
  | unaryMinus =>
      cases stack with
      | nil => exact .foretold rfl
      | cons operand stack => exact (agrees_negate operand).push stack
  | operator symbol =>
      rcases stack with _ | ⟨right, _ | ⟨left, stack⟩⟩
      · exact .foretold rfl
      · exact .foretold rfl
      · exact (agrees_apply symbol left right).push stack
  | leftParenthesis | rightParenthesis => exact .foretold rfl

theorem stepKinds_of_step {token : Token} {stack next : List Value}
    (stepped : step token stack = .ok next) :
    stepKinds token (stack.map Value.kind) = .ok (next.map Value.kind) := by
  have agrees := agrees_step (ne_now_of_step stepped) stack
  rw [stepped] at agrees
  exact agrees.eq_of_ok

/-- A run keeps to the inferred kinds. -/
theorem Reaches.kindsFrom_append {clock : Clock} {before : List Token} {stack last : List Value}
    {reads count : Nat} (reached : Reaches clock before stack reads last count) (position : Nat)
    (after : List Token) :
    kindsFrom position (before ++ after) (stack.map Value.kind) =
      kindsFrom (position + before.length) after (last.map Value.kind) := by
  induction reached generalizing position with
  | done => rfl
  | now _ ih =>
      have later := ih (position + 1)
      rwa [Nat.add_right_comm, Nat.add_assoc] at later
  | step stepped _ ih =>
      rw [List.cons_append, kindsFrom, stepKinds_of_step stepped, List.length_cons]
      have later := ih (position + 1)
      rwa [Nat.add_right_comm, Nat.add_assoc] at later

theorem Reaches.kindsFrom_eq {clock : Clock} {tokens : List Token} {last : List Value}
    {reads count : Nat} (reached : Reaches clock tokens [] reads last count) :
    kindsFrom 0 tokens [] = .ok (last.map Value.kind) := by
  have whole := reached.kindsFrom_append 0 []
  rw [List.append_nil] at whole
  exact whole

theorem position_le_of_kindsFrom {position : Nat} {tokens : List Token} {kinds : List Kind}
    {fault : KindFault} (faulty : kindsFrom position tokens kinds = .error fault) :
    position ≤ fault.position := by
  induction tokens generalizing position kinds with
  | nil => contradiction
  | cons token tokens ih =>
      rw [kindsFrom] at faulty
      split at faulty
      · have later := ih faulty
        omega
      · cases faulty
        exact Nat.le_refl position

/-- What kinds foretell of an evaluation: a value of the inferred kind, or the failure of a rule at
one of the tokens; a fault of the kinds at its place, unless a rule fails before it. -/
def KeepsKinds (clock : Clock) (reads : Nat) (tokens : List Token) : Prop :=
  match infer tokens with
  | .ok kind =>
      (∃ value, (evaluate clock reads tokens).result = .ok value ∧ value.kind = kind) ∨
        ∃ position failure, FailsAt clock reads tokens position failure ∧
          position < tokens.length ∧ failure.Arithmetic
  | .error fault =>
      ∃ position failure, FailsAt clock reads tokens position failure ∧
        (position = fault.position ∧ failure.category? = some fault.category ∨
          position < fault.position ∧ failure.Arithmetic)

variable {clock : Clock} {reads count : Nat}

theorem keepsKinds_of_finished {tokens : List Token} {stack : List Value}
    (reached : Reaches clock tokens [] reads stack count)
    (reported : ¬Unreported (result stack)) : KeepsKinds clock reads tokens := by
  have kinds := reached.kindsFrom_eq
  rcases stack with _ | ⟨value, _ | ⟨below, stack⟩⟩
  · have inferred : infer tokens = .error ⟨.invalidExpression, tokens.length⟩ := by
      simp only [infer, kinds, List.map_nil]
    rw [KeepsKinds, inferred]
    exact ⟨tokens.length, .nothingToEvaluate, .last reached rfl, .inl ⟨rfl, rfl⟩⟩
  · have inferred : infer tokens = .ok value.kind := by
      simp only [infer, kinds, List.map_cons, List.map_nil]
    have printable : value.Printable := Decidable.byContradiction fun unprintable =>
      reported ((unreported_result [value]).mpr ⟨value, rfl, unprintable⟩)
    have whole := reached.reduce_append []
    rw [List.append_nil] at whole
    rw [KeepsKinds, inferred]
    refine .inl ⟨value, ?_, rfl⟩
    rw [evaluate, whole]
    exact result_singleton printable
  · have inferred : infer tokens = .error ⟨.invalidExpression, tokens.length⟩ := by
      simp only [infer, kinds, List.map_cons]
    rw [KeepsKinds, inferred]
    exact ⟨tokens.length, .unjoinedValues _, .last reached rfl, .inl ⟨rfl, rfl⟩⟩

theorem keepsKinds_of_stopped {before after : List Token} {token : Token} {stack : List Value}
    {failure : Failure} (reached : Reaches clock before [] reads stack count)
    (other : token ≠ .now) (failed : step token stack = .error failure)
    (reported : failure.category? ≠ none) :
    KeepsKinds clock reads (before ++ token :: after) := by
  have fails : FailsAt clock reads (before ++ token :: after) before.length failure :=
    .token rfl other reached failed
  have inside : before.length < (before ++ token :: after).length := by
    rw [List.length_append, List.length_cons]
    omega
  have kinds := reached.kindsFrom_append 0 (token :: after)
  rw [List.map_nil, Nat.zero_add, kindsFrom] at kinds
  have agrees := agrees_step other stack
  rw [failed] at agrees
  generalize stepKinds token (stack.map Value.kind) = stepped at kinds agrees
  cases agrees with
  | unreported missing => contradiction
  | @foretold category _ known =>
      have inferred : infer (before ++ token :: after) = .error ⟨category, before.length⟩ := by
        simp only [infer, kinds]
      rw [KeepsKinds, inferred]
      exact ⟨before.length, failure, fails, .inl ⟨rfl, known⟩⟩
  | arithmetic arithmetic =>
      -- The kinds have a rule here, so their own fault comes later, if there is one.
      cases inferred : infer (before ++ token :: after) with
      | ok kind =>
          rw [KeepsKinds, inferred]
          exact .inr ⟨before.length, failure, fails, inside, arithmetic⟩
      | error fault =>
          have later : before.length < fault.position := by
            unfold infer at inferred
            split at inferred
            · contradiction
            · cases inferred
              exact inside
            · rename_i faulty
              cases inferred
              exact position_le_of_kindsFrom (kinds.symm.trans faulty)
          rw [KeepsKinds, inferred]
          exact ⟨before.length, failure, fails, .inr ⟨later, arithmetic⟩⟩

theorem keepsKinds_of_reported {tokens : List Token}
    (reported : ¬Unreported (evaluate clock reads tokens).result) :
    KeepsKinds clock reads tokens := by
  have ended := ends_reduce clock tokens [] reads
  rw [← evaluate] at ended
  generalize evaluate clock reads tokens = outcome at reported ended
  cases ended with
  | finished reached => exact keepsKinds_of_finished reached reported
  | stopped after reached other failed =>
      exact keepsKinds_of_stopped reached other failed fun missing =>
        reported (unreported_error.mpr missing)

theorem FailsAt.not_unreported {tokens : List Token} {position : Nat} {failure : Failure}
    {category : Failure.Category} (fails : FailsAt clock reads tokens position failure)
    (known : failure.category? = some category) :
    ¬Unreported (evaluate clock reads tokens).result := by
  rw [fails.evaluate_eq, unreported_error, known]
  exact nofun

theorem FailsAt.not_unreported_arithmetic {tokens : List Token} {position : Nat}
    {failure : Failure} (fails : FailsAt clock reads tokens position failure)
    (arithmetic : failure.Arithmetic) : ¬Unreported (evaluate clock reads tokens).result :=
  arithmetic.elim fails.not_unreported fails.not_unreported

theorem KeepsKinds.not_unreported {tokens : List Token} (keeps : KeepsKinds clock reads tokens) :
    ¬Unreported (evaluate clock reads tokens).result := by
  unfold KeepsKinds at keeps
  split at keeps
  · rcases keeps with ⟨value, valued, -⟩ | ⟨position, failure, fails, -, arithmetic⟩
    · rw [valued]
      exact not_unreported_ok value
    · exact fails.not_unreported_arithmetic arithmetic
  · obtain ⟨position, failure, fails, ⟨-, foretold⟩ | ⟨-, arithmetic⟩⟩ := keeps
    · exact fails.not_unreported foretold
    · exact fails.not_unreported_arithmetic arithmetic

/-- A run has the inferred kinds on its stack at every place, so that no value is ever taken for one
of another kind. An evaluation does what the kinds foretell exactly if it neither comes to a value
that cannot be written out nor to operands too large for an operator. -/
theorem keepsKinds_iff_not_overflows (clock : Clock) (reads : Nat) (tokens : List Token) :
    (∀ before stack count, Reaches clock before [] reads stack count →
      kindsFrom 0 before [] = .ok (stack.map Value.kind)) ∧
    (∀ position failure, FailsAt clock reads tokens position failure →
      (evaluate clock reads tokens).result = .error failure) ∧
    (KeepsKinds clock reads tokens ↔ ¬Overflows clock reads tokens) := by
  refine ⟨fun before stack count reached => reached.kindsFrom_eq, ?_, ?_⟩
  · intro position failure fails
    rw [fails.evaluate_eq]
  · rw [← unreported_evaluate]
    exact ⟨KeepsKinds.not_unreported, keepsKinds_of_reported⟩

theorem keepsKinds_scaledNow :
    infer [.now, .literal (.number 2), .operator "*"] = .error ⟨.typeMismatch, 2⟩ ∧
      KeepsKinds (fun _ => .earliest) 0 [.now, .literal (.number 2), .operator "*"] := by
  refine ⟨rfl, (keepsKinds_iff_not_overflows _ 0 _).2.2.mpr fun overflows => ?_⟩
  have failed : (evaluate (fun _ => .earliest) 0
      [.now, .literal (.number 2), .operator "*"]).result =
        .error (.mismatchedOperands .multiply (.dateTime .earliest) (.number 2)) := rfl
  have unreported := (unreported_evaluate _ 0 _).mpr overflows
  rw [failed, unreported_error] at unreported
  contradiction

theorem withinLimits_longestYears : Value.WithinLimits (.duration longestYears) := by
  refine ⟨by decide +kernel, fun unit => ?_⟩
  cases unit <;> decide +kernel

/-- The negation of the longest number of years, which no number can be added to. -/
def misaddedYears : List Token :=
  [.literal (.duration longestYears), .unaryMinus, .literal (.number 1), .operator "+"]

theorem withinLimits_misaddedYears :
    ∀ value, .literal value ∈ misaddedYears → value.WithinLimits := by
  intro value member
  simp only [misaddedYears, List.mem_cons, Token.literal.injEq, reduceCtorEq, List.not_mem_nil,
    or_false, false_or] at member
  rcases member with rfl | rfl
  · exact withinLimits_longestYears
  · change Float.isFinite 1 = true
    decide

theorem not_keepsKinds_of_withinLimits :
    ¬∀ (clock : Clock) (reads : Nat) (tokens : List Token),
      (∀ value, .literal value ∈ tokens → value.WithinLimits) → KeepsKinds clock reads tokens := by
  intro keeps
  have kept := keeps (fun _ => .earliest) 0 misaddedYears withinLimits_misaddedYears
  refine kept.not_unreported ((unreported_evaluate _ 0 _).mpr (.inr ?_))
  have reached : Reaches (fun _ => .earliest)
      [.literal (.duration longestYears), .unaryMinus, .literal (.number 1)] [] 0
      [.number 1, .duration longestYears.negate] 0 := .step rfl (.step rfl (.step rfl .done))
  have oversized : Oversized .add (.duration longestYears.negate) (.number 1) :=
    ⟨rfl, fun printable => unprintable_negate_longestYears printable.1⟩
  exact ⟨_, .add, [], _, _, [], 0, rfl, reached, oversized⟩

end Evaluation

end DateCalculator
