import DateCalculator.CommandLine.Arguments
import DateCalculator.Presentation
import DateCalculator.Stage

/-!
The command line. Bad options are reported before anything else, then help and version are shown,
then the locale is checked; what is left is the expression.
-/

namespace DateCalculator.CommandLine

structure Report where
  exitCode : Nat
  output : String
  errors : String
  deriving DecidableEq

def version : String := "0.1.0"

def versionText : String := s!"timecalc, version {version}\n"

def usageLine : String := "Usage: timecalc [OPTIONS] [EXPRESSION]...\n"

def helpText : String := usageLine ++ "\n" ++
  "  Evaluate EXPRESSION over numbers, dates, durations and now.\n" ++
  "\n" ++
  "  Examples:\n" ++
  "    timecalc \"2024-01-31 + P1M\"\n" ++
  "    timecalc \"(now - 2024-01-01T09:30) / 2\"\n" ++
  "    timecalc PT1H30M * 3\n" ++
  "\n" ++
  "Options:\n" ++
  "  --version      Show the version and exit.\n" ++
  "  --locale TEXT  Locale for the human-readable part of the result.  [default:\n" ++
  "                 en_US]\n" ++
  "  -v, --verbose  Log each pipeline stage to stderr.\n" ++
  "  --log-json     Structured JSON log output to stderr.\n" ++
  "  -h, --help     Show this message and exit.\n"

def errorLine (message : String) : String := s!"Error: {message}\n"

def unknownLocaleText (name : String) : String :=
  usageLine ++ "Try 'timecalc --help' for help.\n\n" ++
    errorLine s!"Invalid value for '--locale': unknown locale {Text.quoted name}"

/-- The locale that was asked for last, else that of the environment unless it is empty, else the
default. -/
def localeName (arguments : Arguments) (environment : Option String) : String :=
  match arguments.locale, environment with
  | some name, _ => name
  | none, some name => if name = "" then Presentation.defaultLocale else name
  | none, none => Presentation.defaultLocale

def expression (arguments : Arguments) : String :=
  String.ofList (Text.trim Text.isBlank (" ".intercalate arguments.words).toList)

def log (arguments : Arguments) (timestamp : String) (stages : List Stage) : String :=
  if arguments.verbose then
    String.join <| stages.map <|
      if arguments.json then Stage.jsonLine timestamp else Stage.plainLine timestamp
  else ""

def unwritable : String := "The result cannot be written out"

def calculate (clock : Clock) (locale timestamp : String) (arguments : Arguments) : Report :=
  let text := expression arguments
  let log := log arguments timestamp (Stage.reached clock 0 text)
  match (Calculator.calculate clock 0 text).result with
  | .error failure => ⟨1, "", log ++ errorLine (failure.message?.getD unwritable)⟩
  | .ok value =>
      match Presentation.present value locale with
      | .error _ => ⟨1, "", log ++ errorLine unwritable⟩
      | .ok shown => ⟨0, shown ++ "\n", log⟩

def run (clock : Clock) (environment : Option String) (timestamp : String) (words : List String) :
    Report :=
  match Arguments.empty.read words with
  | .error error => ⟨2, "", errorLine error.message⟩
  | .ok arguments =>
      match arguments.notice with
      | some .help => ⟨0, helpText, ""⟩
      | some .version => ⟨0, versionText, ""⟩
      | none =>
          let locale := localeName arguments environment
          if (Locale.ofName? locale).isNone then ⟨2, "", unknownLocaleText locale⟩
          else if expression arguments = "" then
            ⟨1, "", errorLine "Please enter the expression to calculate."⟩
          else calculate clock locale timestamp arguments

end DateCalculator.CommandLine
