/-!
Command-line words. Options may stand anywhere before `--`; a word that is no option is a part of
the expression, also if it begins with a dash. In a word with one dash the letters `v` and `h` are
options wherever they stand and the rest of the word stays.
-/

namespace DateCalculator.CommandLine

inductive Notice where
  | help | version
  deriving DecidableEq

structure Arguments where
  locale : Option String
  verbose : Bool
  json : Bool
  notice : Option Notice
  words : List String

inductive ArgumentError where
  | missingValue (option : String)
  | unexpectedValue (option : String)
  deriving DecidableEq

def ArgumentError.message : ArgumentError → String
  | missingValue option => s!"Option '{option}' requires an argument."
  | unexpectedValue option => s!"Option '{option}' does not take a value."

namespace Arguments

def empty : Arguments := ⟨none, false, false, none, []⟩

def addWord (arguments : Arguments) (word : String) : Arguments :=
  { arguments with words := arguments.words ++ [word] }

def ask (arguments : Arguments) (notice : Notice) : Arguments :=
  { arguments with notice := arguments.notice.or (some notice) }

def flag? (name : String) : Option (Arguments → Arguments) :=
  match name with
  | "--verbose" => some fun arguments => { arguments with verbose := true }
  | "--log-json" => some fun arguments => { arguments with json := true }
  | "--version" => some fun arguments => arguments.ask .version
  | "--help" => some fun arguments => arguments.ask .help
  | _ => none

def addLetter (arguments : Arguments) : Char → Arguments
  | 'v' => { arguments with verbose := true }
  | 'h' => arguments.ask .help
  | _ => arguments

def addLetters (arguments : Arguments) (letters : List Char) : Arguments :=
  let arguments := letters.foldl addLetter arguments
  match letters.filter fun letter => letter ≠ 'v' && letter ≠ 'h' with
  | [] => arguments
  | kept => arguments.addWord (String.ofList ('-' :: kept))

def splitValue (word : List Char) : String × Option String :=
  (String.ofList (word.takeWhile (· ≠ '=')),
    match word.dropWhile (· ≠ '=') with
    | [] => none
    | _ :: value => some (String.ofList value))

def read (arguments : Arguments) : List String → Except ArgumentError Arguments
  | [] => .ok arguments
  | word :: words =>
      match word.toList with
      | ['-', '-'] => .ok { arguments with words := arguments.words ++ words }
      | '-' :: '-' :: _ =>
          let (name, value) := splitValue word.toList
          if name = "--locale" then
            match value, words with
            | some value, words => read { arguments with locale := some value } words
            | none, value :: words => read { arguments with locale := some value } words
            | none, [] => .error (.missingValue name)
          else
            match flag? name, value with
            | some effect, none => read (effect arguments) words
            | some _, some _ => .error (.unexpectedValue name)
            | none, _ => read (arguments.addWord word) words
      | '-' :: letter :: letters => read (arguments.addLetters (letter :: letters)) words
      | _ => read (arguments.addWord word) words

end Arguments

end DateCalculator.CommandLine
