import DateCalculator.Calculator
import DateCalculator.Proofs.Conservation
import DateCalculator.Proofs.DurationReading
import DateCalculator.Proofs.LexicalCategory
import DateCalculator.Proofs.NumeralText
import DateCalculator.Proofs.ShiftOutcome

/-!
Tokens that can be written out. A duration that was read has no numeral beyond the length limit, and
its milliseconds carry nothing into its seconds, so whatever a lexical rule claims has a text. So
scanned tokens always have a reverse Polish order.
-/

namespace DateCalculator

namespace Duration

theorem fits_numeral {given : Option DigitRun}
    (short : ∀ run ∈ given, run.digits.length ≤ Numeral.digitLimit) :
    Numeral.Fits (given.elim 0 fun run => Numeral.value run.digits) := by
  cases given with
  | none => exact @Numeral.fits_value [] (Nat.zero_le _)
  | some run => exact Numeral.fits_value (short run rfl)

theorem thousandths_lt (fraction : List Char) : thousandths fraction < 1000 := by
  have bound := Numeral.value_lt ((fraction ++ List.replicate 3 '0').take 3)
  have length : ((fraction ++ List.replicate 3 '0').take 3).length = 3 := by
    rw [List.length_take, List.length_append, List.length_replicate]
    omega
  rwa [length] at bound

namespace Spelling

variable {spelling : Spelling}

theorem amount_millisecond_lt : spelling.amount .millisecond < 1000 := by
  simp only [amount]
  cases spelling.seconds.bind SecondsComponent.fraction with
  | none => decide
  | some fraction => exact thousandths_lt fraction.run.digits

theorem printable_of_short (short : spelling.Short) (negative : Bool) :
    (ofAmounts negative spelling.amount).Printable := by
  have uncarried : carriedSeconds spelling.amount = spelling.amount .second := by
    have small := spelling.amount_millisecond_lt
    unfold carriedSeconds
    omega
  rw [printable_ofAmounts, uncarried]
  refine ⟨fun unit member => ?_, fits_numeral (short .second)⟩
  cases unit with
  | year => exact fits_numeral (short .year)
  | month => exact fits_numeral (short .month)
  | week => exact fits_numeral (short .week)
  | day => exact fits_numeral (short .day)
  | hour => exact fits_numeral (short .hour)
  | minute => exact fits_numeral (short .minute)
  | second | millisecond => simp at member

end Spelling

theorem printable_of_read {text : String} {span : Duration} (found : read text = .ok span) :
    span.Printable := by
  have reading := reading_read text
  rw [found] at reading
  cases reading with
  | spelled spelling _ short => exact Spelling.printable_of_short short spelling.negative

end Duration

namespace Token

theorem printable_of_claim {rule : Recognizer} (member : rule ∈ recognizers)
    {before : Option Token} {text : List Char} {found : Match text}
    (claims : rule before text = .ok (some found)) : found.token.Printable := by
  obtain ⟨category, among, -, reads⟩ := exists_category_of_rule member claims
  cases token : found.token with
  | literal value =>
      rw [token] at reads
      cases readFrom_of_reading among reads with
      | number _ _ => trivial
      | dateTime _ => trivial
      | duration read => exact Duration.printable_of_read read
  | _ => trivial

variable {rules : List Recognizer} {position : Nat} {text : List Char}

theorem writable_of_scan (lexical : ∀ rule ∈ rules, rule ∈ recognizers) {tokens : List Token}
    (scanned : scan rules position none text = .ok tokens) : Writable tokens :=
  forall_of_scan (fun rule member _ _ _ => printable_of_claim (lexical rule member)) scanned

theorem exists_ofInfix_of_scan (lexical : ∀ rule ∈ rules, rule ∈ recognizers)
    {tokens : List Token} (scanned : scan rules position none text = .ok tokens) :
    ∃ ordered, ReversePolish.ofInfix tokens = .ok ordered :=
  have chained := scan_chained (fun rule member => recognizers_sound rule (lexical rule member))
    scanned
  ReversePolish.exists_ofInfix chained.known (writable_of_scan lexical scanned)

theorem unscanned_printable (lexical : ∀ rule ∈ rules, rule ∈ recognizers) {failure : Failure}
    (failed : scan rules position none text = .error failure) : Unscanned Printable failure :=
  unscanned_of_scan (fun rule member _ _ _ => printable_of_claim (lexical rule member)) (by simp)
    failed

end Token

namespace Calculator

variable {expression : String} {tokens ordered : List Token}

theorem exists_ofInfix_of_tokenize (scanned : Token.tokenize expression = .ok tokens) :
    ∃ ordered, ReversePolish.ofInfix tokens = .ok ordered :=
  Token.exists_ofInfix_of_scan (fun _ member => member) scanned

theorem calculate_of_reorder (scanned : Token.tokenize expression = .ok tokens)
    (reordered : ReversePolish.reorder tokens [] = .ok ordered) (clock : Clock) (reads : Nat) :
    calculate clock reads expression = Evaluation.evaluate clock reads ordered := by
  have writable := Token.writable_of_scan (fun _ member => member) scanned
  have converted := ReversePolish.ofInfix_eq_ok_iff.mpr ⟨reordered, writable⟩
  rw [calculate_of_tokenize scanned, calculateTokens_of_ofInfix converted]

end Calculator

end DateCalculator
