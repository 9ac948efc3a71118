import DateCalculator.Text.Quoted

/-!
JSON string literals in visible ASCII characters. Everything else is escaped, characters beyond
four hexadecimal digits as a pair of surrogates.
-/

namespace DateCalculator.Text

def jsonUnit (code : Nat) : List Char := '\\' :: 'u' :: hexadecimal 4 code

def jsonCharacter (character : Char) : List Char :=
  let code := character.toNat
  if character = doubleQuote ∨ character = '\\' then ['\\', character]
  else if 0x20 ≤ code ∧ code < 0x7F then [character]
  else if character = '\n' then ['\\', 'n']
  else if character = '\r' then ['\\', 'r']
  else if character = '\t' then ['\\', 't']
  else if code = 8 then ['\\', 'b']
  else if code = 12 then ['\\', 'f']
  else if code < 0x10000 then jsonUnit code
  else jsonUnit (0xD800 + (code - 0x10000) / 0x400) ++ jsonUnit (0xDC00 + (code - 0x10000) % 0x400)

def jsonString (text : String) : String :=
  String.ofList (doubleQuote :: text.toList.flatMap jsonCharacter ++ [doubleQuote])

end DateCalculator.Text
