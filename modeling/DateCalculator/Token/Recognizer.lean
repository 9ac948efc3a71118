import DateCalculator.DateTime.Reader
import DateCalculator.Duration.Reader
import DateCalculator.Failure
import DateCalculator.Number.Whole

/-!
Recognizers, the lexical rules. Each looks at the front of a text that has no blanks and claims a
token there, declines, or claims the lexeme and finds it at fault. A claimed lexeme is never empty
and what follows it is the rest of the text.
-/

namespace DateCalculator.Token

structure Match (text : List Char) where
  token : Token
  lexeme : List Char
  rest : List Char
  lexeme_ne_nil : lexeme ≠ []
  append_eq : lexeme ++ rest = text

theorem Match.rest_shorter {text : List Char} (found : Match text) :
    found.rest.length < text.length := by
  have positive := List.length_pos_iff.mpr found.lexeme_ne_nil
  have length := congrArg List.length found.append_eq
  rw [List.length_append] at length
  omega

structure Misreading where
  fault : LexicalFault
  lexeme : List Char

def Misreading.at (misreading : Misreading) (position : Nat) : Failure :=
  .lexical misreading.fault (String.ofList misreading.lexeme) position

/-- A lexical rule, given the token before the text. -/
abbrev Recognizer := Option Token → (text : List Char) → Except Misreading (Option (Match text))

/-- Whether a character fits a place of a shape: `0` stands for a digit, `T` for itself in either
case. -/
def fitsShape (place character : Char) : Bool :=
  if place = '0' then character.isDigit
  else if place = 'T' then character = 'T' || character = 't'
  else character = place

def splitShape? : List Char → List Char → Option (List Char × List Char)
  | [], text => some ([], text)
  | _ :: _, [] => none
  | place :: shape, character :: text =>
      if fitsShape place character then
        (splitShape? shape text).map fun (lexeme, rest) => (character :: lexeme, rest)
      else none

theorem append_of_splitShape? {shape text lexeme rest : List Char}
    (found : splitShape? shape text = some (lexeme, rest)) : lexeme ++ rest = text := by
  induction shape generalizing text lexeme with
  | nil =>
    simp only [splitShape?, Option.some.injEq, Prod.mk.injEq] at found
    simp [← found.1, ← found.2]
  | cons place shape ih =>
    cases text with
    | nil => simp [splitShape?] at found
    | cons character text =>
      simp only [splitShape?] at found
      split at found
      · obtain ⟨⟨lexeme, rest⟩, inner, same⟩ := Option.map_eq_some_iff.mp found
        cases same
        simp [ih inner]
      · contradiction

def splitShapes : List (List Char) → List Char → List Char × List Char
  | [], text => ([], text)
  | shape :: shapes, text =>
      match splitShape? shape text with
      | none => ([], text)
      | some (lexeme, rest) =>
          let (more, rest) := splitShapes shapes rest
          (lexeme ++ more, rest)

theorem append_splitShapes (shapes : List (List Char)) (text : List Char) :
    (splitShapes shapes text).1 ++ (splitShapes shapes text).2 = text := by
  induction shapes generalizing text with
  | nil => rfl
  | cons shape shapes ih =>
    simp only [splitShapes]
    split
    · rfl
    · rename_i lexeme rest found
      simp only [List.append_assoc, ih rest]
      exact append_of_splitShape? found

def dateShape : List Char := ['0', '0', '0', '0', '-', '0', '0', '-', '0', '0']

def timeShapes : List (List Char) := [['T', '0', '0'], [':', '0', '0'], [':', '0', '0']]

def splitDate? (text : List Char) : Option (List Char × List Char) :=
  (splitShape? dateShape text).map fun (date, afterDate) =>
    (date ++ (splitShapes timeShapes afterDate).1, (splitShapes timeShapes afterDate).2)

theorem append_of_splitDate? {text lexeme rest : List Char}
    (found : splitDate? text = some (lexeme, rest)) : lexeme ++ rest = text := by
  obtain ⟨⟨date, afterDate⟩, shaped, same⟩ := Option.map_eq_some_iff.mp found
  cases same
  rw [List.append_assoc, append_splitShapes]
  exact append_of_splitShape? shaped

theorem ne_nil_of_splitDate? {text lexeme rest : List Char}
    (found : splitDate? text = some (lexeme, rest)) : lexeme ≠ [] := by
  obtain ⟨⟨date, afterDate⟩, shaped, same⟩ := Option.map_eq_some_iff.mp found
  cases same
  cases text with
  | nil => simp [dateShape, splitShape?] at shaped
  | cons character text =>
    simp only [dateShape, splitShape?] at shaped
    split at shaped
    · obtain ⟨⟨tail, rest⟩, _, same⟩ := Option.map_eq_some_iff.mp shaped
      cases same
      simp
    · contradiction

def recognizeDate : Recognizer := fun _ text =>
  match found : splitDate? text with
  | none => .ok none
  | some (lexeme, rest) =>
      match DateTime.read (String.ofList lexeme) with
      | .ok moment => .ok <| some {
          token := .literal (.dateTime moment), lexeme, rest
          lexeme_ne_nil := ne_nil_of_splitDate? found
          append_eq := append_of_splitDate? found }
      | .error _ => .error ⟨.date, lexeme⟩

def isWordCharacter (character : Char) : Bool := character.isAlphanum || character = '_'

def recognizeNow : Recognizer := fun _ text =>
  match text with
  | 'n' :: 'o' :: 'w' :: rest =>
      if (rest.head?.map isWordCharacter).getD false then .ok none
      else .ok <| some {
        token := .now, lexeme := ['n', 'o', 'w'], rest
        lexeme_ne_nil := by simp
        append_eq := rfl }
  | _ => .ok none

def recognizeDuration : Recognizer := fun _ text =>
  match text with
  | [] => .ok none
  | first :: afterFirst =>
      if first = 'p' ∨ first = 'P' then
        let lexeme := first :: afterFirst.takeWhile Char.isAlphanum
        match Duration.read (String.ofList lexeme) with
        | .ok span => .ok <| some {
            token := .literal (.duration span), lexeme
            rest := afterFirst.dropWhile Char.isAlphanum
            lexeme_ne_nil := by simp [lexeme]
            append_eq := by simp [lexeme] }
        | .error _ => .error ⟨.duration, lexeme⟩
      else .ok none

/-- The token of a one-character symbol. A minus is unary where nothing stands to its left. -/
def ofSymbol? (before : Option Token) : Char → Option Token
  | '+' => some (.ofOperator .add)
  | '*' => some (.ofOperator .multiply)
  | '/' => some (.ofOperator .divide)
  | '(' => some .leftParenthesis
  | ')' => some .rightParenthesis
  | '-' =>
      if (before.map opensOperand).getD true then some .unaryMinus
      else some (.ofOperator .subtract)
  | _ => none

def recognizeSymbol : Recognizer := fun before text =>
  match text with
  | [] => .ok none
  | first :: rest => .ok <| (ofSymbol? before first).map fun token => {
      token, lexeme := [first], rest
      lexeme_ne_nil := by simp
      append_eq := rfl }

def splitNumber (text : List Char) : List Char × List Char :=
  let whole := text.takeWhile Char.isDigit
  match text.dropWhile Char.isDigit with
  | '.' :: afterPoint =>
      (whole ++ '.' :: afterPoint.takeWhile Char.isDigit, afterPoint.dropWhile Char.isDigit)
  | rest => (whole, rest)

theorem append_splitNumber (text : List Char) :
    (splitNumber text).1 ++ (splitNumber text).2 = text := by
  have whole := List.takeWhile_append_dropWhile (p := Char.isDigit) (l := text)
  unfold splitNumber
  split
  · rename_i afterPoint point
    rw [point] at whole
    simp only [List.append_assoc, List.cons_append, List.takeWhile_append_dropWhile]
    exact whole
  · exact whole

def numberOf? (lexeme : List Char) : Option Float :=
  let whole := lexeme.takeWhile (· ≠ '.')
  let fraction := (lexeme.dropWhile (· ≠ '.')).drop 1
  if whole = [] ∧ fraction = [] then none else some (Number.ofDecimal whole fraction)

def recognizeNumber : Recognizer := fun _ text =>
  if empty : (splitNumber text).1 = [] then .ok none
  else
    match numberOf? (splitNumber text).1 with
    | none => .error ⟨.number, (splitNumber text).1⟩
    | some number =>
        if number.isFinite then .ok <| some {
          token := .literal (.number number)
          lexeme := (splitNumber text).1
          rest := (splitNumber text).2
          lexeme_ne_nil := empty
          append_eq := append_splitNumber text }
        else .error ⟨.numberTooLarge, (splitNumber text).1⟩

/-- The rules in the order in which they are tried: dates before numbers, so that a date is never
split, and words before symbols. -/
def recognizers : List Recognizer :=
  [recognizeDate, recognizeNow, recognizeDuration, recognizeSymbol, recognizeNumber]

end DateCalculator.Token
