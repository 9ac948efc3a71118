import DateCalculator.Calculator
import DateCalculator.Text.Json

/-!
The stages of a calculation, as a log shows them. A failure ends the list: the stages that were not
reached are missing.
-/

namespace DateCalculator

inductive Stage where
  | started (expression : String)
  | tokenized (expression : String) (tokens : List Token)
  | reordered (tokens : List Token)
  | evaluated (value : Value)

namespace Stage

def reporter : Stage → String
  | started _ => "timecalc.calculator"
  | tokenized _ _ => "timecalc.lexer"
  | reordered _ => "timecalc.postfix"
  | evaluated _ => "timecalc.evaluator"

def report : Stage → String
  | started expression => s!"calculating {Text.quoted expression}"
  | tokenized expression tokens =>
      s!"tokenized {Text.quoted expression} into {Token.texts tokens}"
  | reordered tokens => s!"postfix order: {Token.texts tokens}"
  | evaluated value => s!"evaluated to {value.described}"

def reached (clock : Clock) (reads : Nat) (expression : String) : List Stage :=
  .started expression ::
    match Token.tokenize expression with
    | .error _ => []
    | .ok tokens =>
        .tokenized expression tokens ::
          match ReversePolish.ofInfix tokens with
          | .error _ => []
          | .ok ordered =>
              .reordered ordered ::
                match (Evaluation.evaluate clock reads ordered).result with
                | .error _ => []
                | .ok value => [.evaluated value]

def eventWidth : Nat := 30

def plainLine (timestamp : String) (stage : Stage) : String :=
  let padding := String.ofList (List.replicate (eventWidth - stage.report.length) ' ')
  s!"{timestamp} [debug    ] {stage.report}{padding} [{stage.reporter}]\n"

def jsonMember (name value : String) : String := s!"{Text.jsonString name}: {Text.jsonString value}"

def jsonLine (timestamp : String) (stage : Stage) : String :=
  let members := ", ".intercalate [jsonMember "event" stage.report, jsonMember "level" "debug",
    jsonMember "logger" stage.reporter, jsonMember "timestamp" timestamp]
  "\x7b" ++ members ++ "\x7d\n"

end Stage

end DateCalculator
