/-!
Blank characters. They carry no meaning in an expression: the scanner drops them wherever they
stand, and the command line strips them from both ends of its text.
-/

namespace DateCalculator.Text

def isBlank (character : Char) : Bool :=
  let code := character.toNat
  (9 ≤ code && code ≤ 13) || (28 ≤ code && code ≤ 32) || code == 0x85 || code == 0xA0 ||
    code == 0x1680 || (0x2000 ≤ code && code ≤ 0x200A) || code == 0x2028 || code == 0x2029 ||
    code == 0x202F || code == 0x205F || code == 0x3000

def withoutBlanks (text : List Char) : List Char :=
  text.filter fun character => !isBlank character

theorem not_isBlank_of_mem_withoutBlanks {text : List Char} {character : Char}
    (member : character ∈ withoutBlanks text) : isBlank character = false := by
  simpa using (List.mem_filter.mp member).2

def trim (droppable : Char → Bool) (text : List Char) : List Char :=
  ((text.dropWhile droppable).reverse.dropWhile droppable).reverse

end DateCalculator.Text
