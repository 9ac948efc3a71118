import DateCalculator.CommandLine
import DateCalculator.Proofs.ExpressionLetters
import DateCalculator.Proofs.PrintedInput

/-!
The command with an expression as its one word. No expression is taken for a long option, nor for a
wish to see more, since none has the letters for it. But an expression with one dash in front may
well have an `h` in it, and then the help text is shown in place of its value.
-/

namespace DateCalculator

namespace Text

theorem withoutBlanks_dropWhile (text : List Char) :
    withoutBlanks (text.dropWhile isBlank) = withoutBlanks text := by
  induction text with
  | nil => rfl
  | cons first text ih =>
      cases blank : isBlank first with
      | false => rw [List.dropWhile_cons_of_neg (by simp [blank])]
      | true =>
          rw [List.dropWhile_cons_of_pos blank, ih, withoutBlanks, withoutBlanks,
            List.filter_cons_of_neg (by simp [blank])]

theorem withoutBlanks_trim (text : List Char) :
    withoutBlanks (trim isBlank text) = withoutBlanks text := by
  have reversed (run : List Char) : withoutBlanks run.reverse = (withoutBlanks run).reverse :=
    List.filter_reverse
  rw [trim, reversed, withoutBlanks_dropWhile, reversed, List.reverse_reverse,
    withoutBlanks_dropWhile]

end Text

namespace Calculator

variable {clock : Clock} {reads : Nat} {expression : String}

theorem calculate_eq_of_source {other : String}
    (same : Token.source other = Token.source expression) :
    calculate clock reads other = calculate clock reads expression := by
  rw [calculate, calculate, Token.tokenize_eq, Token.tokenize_eq, same]

theorem exists_tokens {value : Value}
    (calculated : (calculate clock reads expression).result = .ok value) :
    ∃ tokens, Token.tokenize expression = .ok tokens := by
  rw [calculate] at calculated
  cases scanned : Token.tokenize expression with
  | error failure =>
      rw [scanned] at calculated
      contradiction
  | ok tokens => exact ⟨tokens, rfl⟩

theorem source_ne_nil {value : Value}
    (calculated : (calculate clock reads expression).result = .ok value) :
    Token.source expression ≠ [] := by
  intro blank
  have scanned : Token.tokenize expression = .ok [] := by
    rw [Token.tokenize_eq, blank, Token.scan]
  rw [calculate, scanned] at calculated
  contradiction

theorem ne_dashes {value : Value}
    (calculated : (calculate clock reads expression).result = .ok value) :
    expression ≠ "--" := by
  rintro rfl
  have scanned : Token.tokenize "--" = .ok [.unaryMinus, .unaryMinus] :=
    Token.eq_ok_of_toOption (by decide +kernel)
  rw [calculate, scanned] at calculated
  contradiction

end Calculator

namespace CommandLine

/-- Whether a word has an `h` behind a single dash. -/
def asksForHelp (word : String) : Bool :=
  match word.toList with
  | '-' :: letter :: letters => letter ≠ '-' && (letter :: letters).contains 'h'
  | _ => false

theorem asksForHelp_iff {word : String} :
    asksForHelp word = true ↔ ∃ letter letters, word.toList = '-' :: letter :: letters ∧
      letter ≠ '-' ∧ 'h' ∈ letter :: letters := by
  unfold asksForHelp
  split
  · rename_i first rest dashed
    rw [Bool.and_eq_true, decide_eq_true_eq, List.contains_iff_mem, dashed]
    constructor
    · intro asks
      exact ⟨first, rest, rfl, asks⟩
    · rintro ⟨letter, letters, same, asks⟩
      cases same
      exact asks
  · rename_i other
    constructor
    · intro asks
      contradiction
    · rintro ⟨letter, letters, dashed, -⟩
      exact absurd dashed (other letter letters)

namespace Arguments

variable {arguments : Arguments} {word : String}

theorem notice_addLetter (arguments : Arguments) (letter : Char) :
    (arguments.addLetter letter).notice =
      if letter = 'h' then arguments.notice.or (some .help) else arguments.notice := by
  unfold addLetter
  split
  · rfl
  · rfl
  · rename_i other
    exact (if_neg other).symm

theorem notice_foldl (arguments : Arguments) (letters : List Char) :
    (letters.foldl addLetter arguments).notice =
      if 'h' ∈ letters then arguments.notice.or (some .help) else arguments.notice := by
  induction letters generalizing arguments with
  | nil => rfl
  | cons first rest ih =>
      rw [List.foldl_cons, ih, notice_addLetter]
      by_cases begun : first = 'h'
      · simp [begun]
      · simp [begun, Ne.symm begun]

theorem notice_addLetters (arguments : Arguments) (letters : List Char) :
    (arguments.addLetters letters).notice = (letters.foldl addLetter arguments).notice := by
  unfold addLetters
  dsimp only
  split <;> rfl

theorem addLetter_of_other {letter : Char} (unverbose : letter ≠ 'v') (letterless : letter ≠ 'h') :
    arguments.addLetter letter = arguments := by
  unfold addLetter
  split
  · contradiction
  · contradiction
  · rfl

theorem foldl_of_other {letters : List Char} (unverbose : 'v' ∉ letters)
    (letterless : 'h' ∉ letters) : letters.foldl addLetter arguments = arguments := by
  induction letters with
  | nil => rfl
  | cons first rest ih =>
      rw [List.foldl_cons, addLetter_of_other (List.ne_of_not_mem_cons unverbose).symm
        (List.ne_of_not_mem_cons letterless).symm]
      exact ih (List.not_mem_of_not_mem_cons unverbose) (List.not_mem_of_not_mem_cons letterless)

/-- Letters that are no options stay together. -/
theorem addLetters_of_other {letters : List Char} (nonempty : letters ≠ [])
    (unverbose : 'v' ∉ letters) (letterless : 'h' ∉ letters) :
    arguments.addLetters letters = arguments.addWord (String.ofList ('-' :: letters)) := by
  have kept : (letters.filter fun letter => letter ≠ 'v' && letter ≠ 'h') = letters := by
    refine List.filter_eq_self.mpr fun letter member => ?_
    have first : letter ≠ 'v' := ne_of_mem_of_not_mem member unverbose
    have second : letter ≠ 'h' := ne_of_mem_of_not_mem member letterless
    simp [first, second]
  unfold addLetters
  rw [foldl_of_other unverbose letterless, kept]
  split
  · contradiction
  · rfl

theorem flag?_of_unlettered {name : String} (unlisted : 'l' ∉ name.toList)
    (unverbose : 'v' ∉ name.toList) : flag? name = none := by
  unfold flag?
  split
  · exact absurd (by decide) unverbose
  · exact absurd (by decide) unlisted
  · exact absurd (by decide) unverbose
  · exact absurd (by decide) unlisted
  · rfl

theorem mem_of_mem_name {word : List Char} {letter : Char}
    (member : letter ∈ (splitValue word).1.toList) : letter ∈ word := by
  rw [splitValue, String.toList_ofList] at member
  exact List.takeWhile_subset _ member

theorem read_cons_of_dashed {letter : Char} {letters : List Char}
    (dashed : word.toList = '-' :: letter :: letters) (single : letter ≠ '-')
    (words : List String) :
    arguments.read (word :: words) = (arguments.addLetters (letter :: letters)).read words := by
  rw [read, dashed]
  split
  · rename_i same
    cases same
    contradiction
  · rename_i same
    cases same
    contradiction
  · rename_i same
    cases same
    rfl
  · rename_i other
    exact absurd rfl (other letter letters)

/-- A word is text if it has not the letters of options and does not end them. -/
theorem read_cons_of_text (unlisted : 'l' ∉ word.toList) (unverbose : 'v' ∉ word.toList)
    (unhelped : asksForHelp word = false) (going : word ≠ "--") (words : List String) :
    arguments.read (word :: words) = (arguments.addWord word).read words := by
  rw [read]
  split
  · rename_i dashes
    exact absurd (String.toList_injective dashes) going
  · have unnamed : (splitValue word.toList).1 ≠ "--locale" := by
      intro same
      exact unlisted (mem_of_mem_name (by rw [same]; decide))
    have unflagged : flag? (splitValue word.toList).1 = none :=
      flag?_of_unlettered (mt mem_of_mem_name unlisted) (mt mem_of_mem_name unverbose)
    dsimp only
    rw [if_neg unnamed, unflagged]
  · rename_i letter letters _ single dashed
    have letterless : 'h' ∉ letter :: letters := by
      intro member
      rw [asksForHelp_iff.mpr ⟨letter, letters, dashed, single, member⟩] at unhelped
      contradiction
    rw [dashed] at unverbose
    rw [addLetters_of_other (List.cons_ne_nil _ _) (List.not_mem_of_not_mem_cons unverbose)
      letterless, ← dashed, String.ofList_toList]
  · rfl

theorem exists_notice (arguments : Arguments) (asks : asksForHelp word = true) :
    ∃ asked, arguments.read [word] = .ok asked ∧
      asked.notice = arguments.notice.or (some .help) := by
  obtain ⟨letter, letters, dashed, single, member⟩ := asksForHelp_iff.mp asks
  refine ⟨arguments.addLetters (letter :: letters), read_cons_of_dashed dashed single [], ?_⟩
  rw [notice_addLetters, notice_foldl, if_pos member]

end Arguments

theorem source_expression_addWord (word : String) :
    Token.source (expression (Arguments.empty.addWord word)) = Token.source word := by
  have trimmed : expression (Arguments.empty.addWord word) =
      String.ofList (Text.trim Text.isBlank word.toList) := rfl
  rw [trimmed, Token.source, Token.source, String.toList_ofList, Text.withoutBlanks_trim]

section Run

variable {clock : Clock} {environment : Option String} {timestamp : String} {words : List String}
  {arguments : Arguments}

/-- With nothing to be told about the command and a locale that is known, the expression is
calculated. -/
theorem run_of_read (read : Arguments.empty.read words = .ok arguments)
    (unnoticed : arguments.notice = none)
    (known : (Locale.ofName? (localeName arguments environment)).isNone = false)
    (written : expression arguments ≠ "") :
    run clock environment timestamp words =
      calculate clock (localeName arguments environment) timestamp arguments := by
  rw [run, read]
  dsimp only
  rw [unnoticed]
  dsimp only
  rw [known, if_neg Bool.false_ne_true, if_neg written]

theorem calculate_of_ok {locale shown : String} {value : Value} (quiet : arguments.verbose = false)
    (calculated : (Calculator.calculate clock 0 (expression arguments)).result = .ok value)
    (presented : Presentation.present value locale = .ok shown) :
    calculate clock locale timestamp arguments = ⟨0, shown ++ "\n", ""⟩ := by
  have silent : log arguments timestamp (Stage.reached clock 0 (expression arguments)) = "" := by
    rw [log, quiet, if_neg Bool.false_ne_true]
  rw [calculate, silent, calculated]
  dsimp only
  rw [presented]

end Run

section OneWord

variable {clock : Clock} {word : String}

theorem run_of_asksForHelp (timestamp : String) (asks : asksForHelp word = true) :
    run clock none timestamp [word] = ⟨0, helpText, ""⟩ := by
  obtain ⟨asked, read, notice⟩ := Arguments.empty.exists_notice asks
  rw [run, read]
  dsimp only
  rw [notice]
  rfl

theorem run_of_text {value : Value} {shown : String} (timestamp : String)
    (unhelped : asksForHelp word = false)
    (calculated : (Calculator.calculate clock 0 word).result = .ok value)
    (presented : Presentation.present value Presentation.defaultLocale = .ok shown) :
    run clock none timestamp [word] = ⟨0, shown ++ "\n", ""⟩ := by
  obtain ⟨tokens, scanned⟩ := Calculator.exists_tokens calculated
  have letters := Token.lettered_of_tokenize scanned
  have unlisted : 'l' ∉ word.toList := fun member => absurd (letters _ member rfl) (by decide)
  have unverbose : 'v' ∉ word.toList := fun member => absurd (letters _ member rfl) (by decide)
  have read : Arguments.empty.read [word] = .ok (Arguments.empty.addWord word) :=
    Arguments.read_cons_of_text unlisted unverbose unhelped (Calculator.ne_dashes calculated) []
  have same := source_expression_addWord word
  have written : expression (Arguments.empty.addWord word) ≠ "" := by
    intro empty
    rw [empty] at same
    exact Calculator.source_ne_nil calculated same.symm
  have known : (Locale.ofName? Presentation.defaultLocale).isNone = false := by decide +kernel
  have named : localeName (Arguments.empty.addWord word) none = Presentation.defaultLocale := rfl
  rw [← Calculator.calculate_eq_of_source same] at calculated
  rw [run_of_read read rfl (named ▸ known) written, named]
  exact calculate_of_ok rfl calculated presented

theorem shown_ne_helpText {value : Value} {locale shown : String}
    (presented : Presentation.present value locale = .ok shown) : shown ++ "\n" ≠ helpText := by
  obtain ⟨front, bracketed⟩ : ∃ front : String, shown = front ++ ")" := by
    unfold Presentation.present at presented
    split at presented
    · contradiction
    · split at presented
      · exact ⟨_, (Except.ok.inj presented).symm⟩
      · contradiction
  obtain ⟨options, last⟩ : ∃ options : String,
      helpText = options ++ "  -h, --help     Show this message and exit.\n" := ⟨_, rfl⟩
  intro same
  have ends := congrArg (fun text => text.toList.reverse.take 2) same
  simp [bracketed, last] at ends

/-- A valid expression as the only word is calculated and its value shown, unless the word has an
`h` behind a single dash: then, and only then, the help text is shown in its place. -/
theorem run_eq_shown_iff {value : Value} {shown : String} (timestamp : String)
    (calculated : (Calculator.calculate clock 0 word).result = .ok value)
    (presented : Presentation.present value Presentation.defaultLocale = .ok shown) :
    (run clock none timestamp [word] = ⟨0, shown ++ "\n", ""⟩ ↔ asksForHelp word = false) ∧
      (asksForHelp word = true → run clock none timestamp [word] = ⟨0, helpText, ""⟩) := by
  refine ⟨⟨?_, fun unhelped => run_of_text timestamp unhelped calculated presented⟩,
    run_of_asksForHelp timestamp⟩
  intro agrees
  refine Bool.eq_false_iff.mpr fun asks => ?_
  rw [run_of_asksForHelp timestamp asks] at agrees
  exact shown_ne_helpText presented (Report.mk.inj agrees).2.1.symm

end OneWord

def oneHour : Duration :=
  .ofAmounts false fun
    | .hour => 1
    | _ => 0

theorem calculate_minusOneHour {expression : String}
    (scanned : Token.tokenize expression = .ok [.unaryMinus, .literal (.duration oneHour)]) :
    (Calculator.calculate (fun _ => .earliest) 0 expression).result =
      .ok (.duration oneHour.negate) := by
  rw [Calculator.calculate_negated _ _ scanned (by decide +kernel)]

theorem present_minusOneHour :
    Presentation.present (.duration oneHour.negate) Presentation.defaultLocale =
      .ok "-1 hr (-PT3600S)" := by
  decide +kernel

theorem run_eq_shown_iff_minusOneHour :
    (Calculator.calculate (fun _ => .earliest) 0 "-PT1H").result =
        .ok (.duration oneHour.negate) ∧
      Presentation.present (.duration oneHour.negate) Presentation.defaultLocale =
        .ok "-1 hr (-PT3600S)" ∧
      run (fun _ => .earliest) none "" ["-PT1H"] = ⟨0, "-1 hr (-PT3600S)\n", ""⟩ := by
  have calculated := calculate_minusOneHour (Token.eq_ok_of_toOption (by decide +kernel) :
    Token.tokenize "-PT1H" = .ok [.unaryMinus, .literal (.duration oneHour)])
  exact ⟨calculated, present_minusOneHour,
    (run_eq_shown_iff "" calculated present_minusOneHour).1.mpr (by decide +kernel)⟩

/-- In small letters the same expression only brings up the help text. -/
theorem not_run_eq_shown :
    ¬∀ (clock : Clock) (timestamp expression : String) (value : Value) (shown : String),
      (Calculator.calculate clock 0 expression).result = .ok value →
      Presentation.present value Presentation.defaultLocale = .ok shown →
        run clock none timestamp [expression] = ⟨0, shown ++ "\n", ""⟩ := by
  intro agrees
  have calculated := calculate_minusOneHour (Token.eq_ok_of_toOption (by decide +kernel) :
    Token.tokenize "-pt1h" = .ok [.unaryMinus, .literal (.duration oneHour)])
  have shows := agrees _ "" _ _ _ calculated present_minusOneHour
  rw [run_of_asksForHelp "" (by decide +kernel)] at shows
  exact shown_ne_helpText present_minusOneHour (Report.mk.inj shows).2.1.symm

end CommandLine

end DateCalculator
