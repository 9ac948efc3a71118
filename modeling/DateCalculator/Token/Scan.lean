import DateCalculator.Token.Recognizer

/-!
From text to tokens. Blanks are dropped first, and positions count characters of what is left. Two
operands in a row are refused at once.
-/

namespace DateCalculator.Token

def firstMatch? (rules : List Recognizer) (before : Option Token) (text : List Char) :
    Except Misreading (Option (Match text)) :=
  match rules with
  | [] => .ok none
  | rule :: rules =>
      match rule before text with
      | .ok none => firstMatch? rules before text
      | claim => claim

def clash? (before : Option Token) (token : Token) : Option Failure :=
  match before with
  | some left =>
      if left.isOperand && token.isOperand then some (.unjoinedOperands left token) else none
  | none => none

def scan (rules : List Recognizer) (position : Nat) (before : Option Token) (text : List Char) :
    Except Failure (List Token) :=
  match text with
  | [] => .ok []
  | first :: rest =>
      match firstMatch? rules before (first :: rest) with
      | .error misreading => .error (misreading.at position)
      | .ok none => .error (.lexical .character (String.singleton first) position)
      | .ok (some found) =>
          match clash? before found.token with
          | some failure => .error failure
          | none =>
              match scan rules (position + found.lexeme.length) (some found.token) found.rest with
              | .ok tokens => .ok (found.token :: tokens)
              | .error failure => .error failure
termination_by text.length
decreasing_by exact found.rest_shorter

def tokenizeWith (rules : List Recognizer) (text : String) : Except Failure (List Token) :=
  scan rules 0 none (Text.withoutBlanks text.toList)

def tokenize (text : String) : Except Failure (List Token) := tokenizeWith recognizers text

end DateCalculator.Token
