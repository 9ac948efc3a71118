import DateCalculator.Proofs.DoubleForm
import DateCalculator.Proofs.DurationReading
import DateCalculator.Proofs.Juxtaposition
import DateCalculator.Proofs.LexicalCategory
import DateCalculator.Proofs.OperandOrder

/-!
Well-formed values. No number is ever infinite or undefined, and no duration mixes its signs: the
reader, the arithmetic and the balancing only build fields that pass the check of a constructor, so
every value on the stack of an evaluation is well formed.
-/

namespace DateCalculator

namespace Duration

/-- The fields that a sign and unsigned amounts are multiplied to. -/
def Fields.signed (negative : Bool) (amount : TimeUnit → Nat) : Fields :=
  .tabulate fun unit => (if negative then -1 else 1) * (amount unit : Int)

/-- The fields of a length, balanced by magnitude from a unit down and then given the sign. -/
def Fields.balanced (total : Int) (largest : TimeUnit) : Fields :=
  .signed (total < 0) (greedy largest.downFrom total.natAbs)

theorem ofFields?_toFields (span : Duration) : ofFields? span.toFields = some span :=
  dif_pos span.oneSign

theorem ofFields?_signed (negative : Bool) (amount : TimeUnit → Nat) :
    ofFields? (.signed negative amount) = some (ofAmounts negative amount) := by
  have same : Fields.signed negative amount = (ofAmounts negative amount).toFields := by
    cases negative
    · simp only [Fields.signed, ofAmounts, Bool.false_eq_true, if_false, Int.one_mul]
    · simp only [Fields.signed, ofAmounts, if_true, Int.neg_mul, Int.one_mul]
  rw [same, ofFields?_toFields]

theorem ofFields?_balanced (total : Int) (largest : TimeUnit) :
    ofFields? (.balanced total largest) = some (ofMilliseconds total largest) :=
  ofFields?_signed _ _

/-- The duration is what the constructor makes of the balanced fields of some length. -/
def Balances (span : Duration) : Prop :=
  ∃ total largest, ofFields? (.balanced total largest) = some span

theorem balances_ofMilliseconds (total : Int) (largest : TimeUnit) :
    Balances (ofMilliseconds total largest) :=
  ⟨total, largest, ofFields?_balanced total largest⟩

theorem exists_spelling_of_read {text : String} {span : Duration} (reads : read text = .ok span) :
    ∃ spelling : Spelling, spelling.text = text.toList ∧
      ofFields? (.signed spelling.negative spelling.amount) = some span := by
  have reading := reading_read text
  rw [reads] at reading
  cases reading with
  | spelled spelling same short => exact ⟨spelling, same, ofFields?_signed _ _⟩

end Duration

namespace Value

def WellFormed : Value → Prop
  | .number value => value.isFinite = true
  | .dateTime _ => True
  | .duration span => span.toFields.OneSign

/-- What arithmetic builds: a finite number, a moment or a balanced duration. -/
inductive Built : Value → Prop
  | number {value : Float} : value.isFinite = true → Built (.number value)
  | dateTime (moment : DateTime) : Built (.dateTime moment)
  | duration {span : Duration} : span.Balances → Built (.duration span)

theorem Built.wellFormed {value : Value} (built : value.Built) : value.WellFormed := by
  cases built with
  | number finite => exact finite
  | dateTime moment => trivial
  | @duration span _ => exact span.oneSign

end Value

namespace Arithmetic

def Builds (result : Except Failure Value) : Prop := ∀ value, result = .ok value → value.Built

theorem builds_ok {value : Value} (built : value.Built) : Builds (.ok value) := by
  intro other same
  cases same
  exact built

theorem builds_error (failure : Failure) : Builds (.error failure) := by
  intro value same
  contradiction

theorem builds_bind {First : Type} {result : Except Failure First}
    {next : First → Except Failure Value} (builds : ∀ value, Builds (next value)) :
    Builds (result >>= next) := by
  cases result with
  | ok value => exact builds value
  | error failure => exact builds_error failure

theorem builds_finite (left right result : Float) : Builds (finite left right result) := by
  unfold finite
  split
  · rename_i finite
    exact builds_ok (.number finite)
  · exact builds_error _

theorem builds_quotient (left right : Float) : Builds (quotient left right) := by
  unfold quotient
  split
  · exact builds_error _
  · exact builds_finite _ _ _

theorem builds_shift (moment : DateTime) (forward : Bool) (span : Duration) :
    Builds (shift moment forward span) := by
  unfold shift
  split
  · exact builds_error _
  · split
    · exact builds_ok (.dateTime _)
    · exact builds_error _

theorem builds_ofLength (milliseconds : Float) : Builds (ofLength milliseconds) := by
  unfold ofLength
  split
  · exact builds_ok (.duration (Duration.balances_ofMilliseconds ..))
  · exact builds_error _

theorem builds_lengthOf_bind_ofLength (span : Duration) (change : Float → Float) :
    Builds (lengthOf span >>= fun length => ofLength (change length)) :=
  builds_bind fun _ => builds_ofLength _

theorem builds_scale (span : Duration) (factor : Float) : Builds (scale span factor) :=
  builds_lengthOf_bind_ofLength span (· * factor)

theorem builds_shrink (span : Duration) (divisor : Float) : Builds (shrink span divisor) := by
  unfold shrink
  split
  · exact builds_error _
  · exact builds_lengthOf_bind_ofLength span (· / divisor)

theorem builds_ratio (left right : Duration) : Builds (ratio left right) := by
  unfold ratio
  split
  · exact builds_error _
  · exact builds_bind fun dividend => builds_lengthOf_bind_ofLength right (dividend / ·)

theorem builds_operate (operator : Operator) (left right : Value) :
    Builds (operate operator left right) := by
  cases operator <;> cases left <;> cases right <;>
    simp only [operate, builds_error, builds_finite, builds_quotient, builds_shift, builds_scale,
      builds_shrink, builds_ratio]
  case add.duration.duration => exact builds_ok (.duration (Duration.balances_ofMilliseconds _ _))
  case subtract.dateTime.dateTime =>
    exact builds_ok (.duration (Duration.balances_ofMilliseconds _ _))
  case subtract.duration.duration =>
    exact builds_ok (.duration (Duration.balances_ofMilliseconds _ _))

theorem builds_apply (symbol : String) (left right : Value) : Builds (apply symbol left right) := by
  unfold apply
  split
  · exact builds_operate _ left right
  · exact builds_error _

/-- A negative number is finite if the number is; a negative duration is balanced anew. -/
theorem builds_negate {operand : Value} (wellFormed : operand.WellFormed) :
    Builds (negate operand) := by
  cases operand with
  | number number => exact builds_ok (.number ((Number.isFinite_neg number).trans wellFormed))
  | dateTime moment => exact builds_error _
  | duration span => exact builds_ok (.duration (Duration.balances_ofMilliseconds ..))

end Arithmetic

namespace Token

def WellFormed : Token → Prop
  | .literal value => value.WellFormed
  | _ => True

def FiniteNumbers (tokens : List Token) : Prop :=
  ∀ number, .literal (.number number) ∈ tokens → number.isFinite = true

theorem FiniteNumbers.wellFormed {tokens : List Token} (finite : FiniteNumbers tokens) :
    ∀ token ∈ tokens, token.WellFormed := by
  intro token member
  cases token with
  | literal value =>
      cases value with
      | number number => exact finite number member
      | dateTime moment => trivial
      | duration span => exact span.oneSign
  | _ => trivial

theorem wellFormed_of_claim {rule : Recognizer} (member : rule ∈ recognizers)
    {before : Option Token} {text : List Char} {found : Match text}
    (claims : rule before text = .ok (some found)) : found.token.WellFormed := by
  obtain ⟨category, among, -, reads⟩ := exists_category_of_rule member claims
  cases token : found.token with
  | literal value =>
      rw [token] at reads
      cases readFrom_of_reading among reads with
      | number _ finite => exact finite
      | dateTime _ => trivial
      | duration _ => exact Duration.oneSign _
  | _ => trivial

theorem finiteNumbers_tokenize {text : String} {tokens : List Token}
    (scanned : tokenize text = .ok tokens) : FiniteNumbers tokens := by
  have wellFormed := forall_of_scan (fun rule among _ _ _ => wellFormed_of_claim among) scanned
  exact fun number member => wellFormed _ member

end Token

theorem ReversePolish.finiteNumbers_ofInfix {tokens ordered : List Token}
    (reordered : ofInfix tokens = .ok ordered) (finite : Token.FiniteNumbers tokens) :
    Token.FiniteNumbers ordered :=
  fun number member => finite number (ofInfix_subset reordered member)

namespace Evaluation

variable {clock : Clock}

theorem wellFormed_push {result : Except Failure Value} {stack next : List Value}
    (builds : Arithmetic.Builds result) (wellFormed : ∀ value ∈ stack, value.WellFormed)
    (pushed : result.map (· :: stack) = .ok next) : ∀ value ∈ next, value.WellFormed := by
  cases result with
  | error failure => contradiction
  | ok value =>
      cases pushed
      exact List.forall_mem_cons.mpr ⟨(builds value rfl).wellFormed, wellFormed⟩

/-- One token keeps the stack well formed. -/
theorem wellFormed_step {token : Token} {stack next : List Value}
    (stepped : step token stack = .ok next) (literal : token.WellFormed)
    (wellFormed : ∀ value ∈ stack, value.WellFormed) : ∀ value ∈ next, value.WellFormed := by
  cases token with
  | literal value =>
      cases stepped
      exact List.forall_mem_cons.mpr ⟨literal, wellFormed⟩
  | unaryMinus =>
      rcases stack with _ | ⟨operand, stack⟩
      · contradiction
      · obtain ⟨top, below⟩ := List.forall_mem_cons.mp wellFormed
        exact wellFormed_push (Arithmetic.builds_negate top) below stepped
  | operator symbol =>
      rcases stack with _ | ⟨right, _ | ⟨left, stack⟩⟩
      · contradiction
      · contradiction
      · have below := (List.forall_mem_cons.mp (List.forall_mem_cons.mp wellFormed).2).2
        exact wellFormed_push (Arithmetic.builds_apply symbol left right) below stepped
  | now | leftParenthesis | rightParenthesis => contradiction

theorem Reaches.wellFormed {tokens : List Token} {stack last : List Value} {reads count : Nat}
    (reached : Reaches clock tokens stack reads last count)
    (literals : ∀ token ∈ tokens, token.WellFormed)
    (wellFormed : ∀ value ∈ stack, value.WellFormed) : ∀ value ∈ last, value.WellFormed := by
  induction reached with
  | done => exact wellFormed
  | now _ ih =>
      refine ih (fun token member => literals token (List.mem_cons_of_mem _ member)) ?_
      exact List.forall_mem_cons.mpr ⟨trivial, wellFormed⟩
  | step stepped _ ih =>
      refine ih (fun token member => literals token (List.mem_cons_of_mem _ member)) ?_
      exact wellFormed_step stepped (literals _ List.mem_cons_self) wellFormed

/-- The value that is left in the end is well formed, and so is every value on the stack behind each
of the tokens. -/
structure KeepsWellFormed (clock : Clock) (reads : Nat) (tokens : List Token) : Prop where
  result : ∀ value, (evaluate clock reads tokens).result = .ok value → value.WellFormed
  runs : ∀ before after stack count, before ++ after = tokens →
    Reaches clock before [] reads stack count → ∀ value ∈ stack, value.WellFormed

theorem keepsWellFormed {tokens : List Token} (finite : Token.FiniteNumbers tokens) (clock : Clock)
    (reads : Nat) : KeepsWellFormed clock reads tokens where
  result value valued := by
    generalize outcomeEq : evaluate clock reads tokens = outcome at valued
    cases reduce_eq_iff_ends.mp outcomeEq with
    | finished reached =>
        obtain ⟨rfl, -⟩ := result_eq_ok valued
        exact reached.wellFormed finite.wellFormed (by simp) value List.mem_cons_self
    | stopped => contradiction
  runs before after stack count whole reached := by
    refine reached.wellFormed (fun token member => finite.wellFormed token ?_) (by simp)
    rw [← whole]
    exact List.mem_append_left after member

end Evaluation

/-- Values are well formed: what an expression evaluates to and what is on the stack on the way, for
every text and for every token list whose numbers are finite. Reading, balancing, rounding, negation
and the rules of arithmetic never hand fields of both signs to the constructor of durations. -/
theorem values_wellFormed :
    (∀ (clock : Clock) (reads : Nat) (expression : String),
      (∀ value, (Calculator.calculate clock reads expression).result = .ok value →
        value.WellFormed) ∧
      ∀ tokens ordered, Token.tokenize expression = .ok tokens →
        ReversePolish.ofInfix tokens = .ok ordered →
        Evaluation.KeepsWellFormed clock reads ordered) ∧
    (∀ (clock : Clock) (reads : Nat) (tokens : List Token), Token.FiniteNumbers tokens →
      Evaluation.KeepsWellFormed clock reads tokens) ∧
    (∀ (text : String) (span : Duration), Duration.read text = .ok span →
      ∃ spelling : Duration.Spelling, spelling.text = text.toList ∧
        Duration.ofFields? (.signed spelling.negative spelling.amount) = some span) ∧
    (∀ (total : Int) (largest : TimeUnit),
      Duration.ofFields? (.balanced total largest) =
        some (Duration.ofMilliseconds total largest)) ∧
    (∀ (days seconds microseconds : Int) (span : Duration),
      Duration.ofDifference? days seconds microseconds = some span → span.Balances) ∧
    (∀ (span : Duration) (smallest largest : TimeUnit), (span.round smallest largest).Balances) ∧
    (∀ span : Duration, span.negate.Balances) ∧
    ∀ (symbol : String) (left right : Value) (span : Duration),
      Arithmetic.apply symbol left right = .ok (.duration span) → span.Balances := by
  have scanned (clock : Clock) (reads : Nat) {expression : String} {tokens ordered : List Token}
      (read : Token.tokenize expression = .ok tokens)
      (reordered : ReversePolish.ofInfix tokens = .ok ordered) :
      Evaluation.KeepsWellFormed clock reads ordered :=
    have finite := Token.finiteNumbers_tokenize read
    Evaluation.keepsWellFormed (ReversePolish.finiteNumbers_ofInfix reordered finite) clock reads
  refine ⟨fun clock reads expression => ⟨?_, ?_⟩, ?_, ?_, Duration.ofFields?_balanced, ?_, ?_, ?_,
    ?_⟩
  · intro value valued
    obtain ⟨tokens, ordered, read, reordered, evaluated⟩ := Calculator.calculate_eq_ok valued
    exact (scanned clock reads read reordered).result value evaluated
  · intro tokens ordered read reordered
    exact scanned clock reads read reordered
  · intro clock reads tokens finite
    exact Evaluation.keepsWellFormed finite clock reads
  · intro text span reads
    exact Duration.exists_spelling_of_read reads
  · intro days seconds microseconds span found
    simp only [Duration.ofDifference?] at found
    split at found
    · cases found
      exact Duration.balances_ofMilliseconds _ _
    · contradiction
  · intro span smallest largest
    exact Duration.balances_ofMilliseconds _ _
  · intro span
    exact Duration.balances_ofMilliseconds _ _
  · intro symbol left right span applied
    cases Arithmetic.builds_apply symbol left right _ applied with
    | duration balances => exact balances

def negatedTwo : List Token := [.literal (.number (Float.ofInt 2)), .unaryMinus]

theorem values_wellFormed_negatedTwo :
    Token.FiniteNumbers negatedTwo ∧
    (Evaluation.evaluate (fun _ => DateTime.earliest) 0 negatedTwo).result =
      .ok (.number (-Float.ofInt 2)) ∧
    (-Float.ofInt 2).isFinite = true := by
  have finite : Token.FiniteNumbers negatedTwo := by
    intro number member
    simp only [negatedTwo, List.mem_cons, Token.literal.injEq, Value.number.injEq, reduceCtorEq,
      List.not_mem_nil, or_false] at member
    subst member
    rfl
  have valued : (Evaluation.evaluate (fun _ => DateTime.earliest) 0 negatedTwo).result =
      .ok (.number (-Float.ofInt 2)) := rfl
  exact ⟨finite, valued, (values_wellFormed.2.1 _ 0 negatedTwo finite).result _ valued⟩

end DateCalculator
