import DateCalculator.Number.Whole
import DateCalculator.Value
import DateCalculator.Text.Quoted

/-!
Foreign data offered as a calculator value. Numbers are taken; everything else is refused, with a
message that names its type and shows it.
-/

namespace DateCalculator

inductive Datum where
  | absent
  | boolean (value : Bool)
  | whole (value : Int)
  | real (value : Float)
  | text (value : String)
  | list (items : List Datum)
  | record (entries : List (String × Datum))

namespace Datum

def typeName : Datum → String
  | absent => "NoneType"
  | boolean _ => "bool"
  | whole _ => "int"
  | real _ => "float"
  | text _ => "str"
  | list _ => "list"
  | record _ => "dict"

/-- A real number with a point or an exponent, positional from 1e-4 up to 1e16. -/
def realText (number : Float) : String :=
  match number.toModel.unpack with
  | .notANumber => "nan"
  | .infinity .positive => "inf"
  | .infinity .negative => "-inf"
  | .zero .positive => "0.0"
  | .zero .negative => "-0.0"
  | .finite sign mantissa exponent _ =>
      let decimal := Number.shortest mantissa exponent
      let digits := Nat.toDigits 10 decimal.coefficient
      let point := digits.length + decimal.exponent
      let magnitude :=
        if -4 < point ∧ point ≤ 16 then
          let placed := Number.place digits point
          if '.' ∈ placed then placed else placed ++ ['.', '0']
        else
          Number.mantissaText digits ++ 'e' :: (if 0 < point then '+' else '-') ::
            Numeral.padded 2 (point - 1).natAbs
      (if sign == .negative then "-" else "") ++ String.ofList magnitude

mutual

def shown : Datum → String
  | absent => "None"
  | boolean true => "True"
  | boolean false => "False"
  | whole value => toString value
  | real value => realText value
  | text value => Text.quoted value
  | list items => "[" ++ ", ".intercalate (shownItems items) ++ "]"
  | record entries => "\x7b" ++ ", ".intercalate (shownEntries entries) ++ "\x7d"

def shownItems : List Datum → List String
  | [] => []
  | item :: items => shown item :: shownItems items

def shownEntries : List (String × Datum) → List String
  | [] => []
  | (name, datum) :: entries => (Text.quoted name ++ ": " ++ shown datum) :: shownEntries entries

end

inductive Refusal where
  | unsupported (datum : Datum)
  | tooLarge

def Refusal.message? : Refusal → Option String
  | unsupported datum => some <|
      s!"Unsupported calculator value '{datum.typeName}': {datum.shown}\n" ++
        "Values must be a float, a naive datetime or a Duration"
  | tooLarge => none

def toValue : Datum → Except Refusal Value
  | whole value =>
      match Number.ofInt? value with
      | some number => .ok (.number number)
      | none => .error .tooLarge
  | real value => .ok (.number value)
  | datum => .error (.unsupported datum)

end Datum

end DateCalculator
