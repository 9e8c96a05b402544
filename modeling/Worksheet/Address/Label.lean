import Worksheet.Address

namespace Worksheet

structure Label where
  letter : Char
  number : List Char

namespace Label

def ofChars? : List Char → Option Label
  | letter :: number =>
    if letter.isUpper && (number.length = 1 || number.length = 2) && number.all Char.isDigit then
      some ⟨letter, number⟩
    else none
  | [] => none

def row? (number : List Char) : Option Nat :=
  let row := Nat.ofDigitChars 10 number 0
  if row < rows ∧ Nat.toDigits 10 row = number then some row else none

def address? (label : Label) : Option Address := do
  let col ← Address.columnLetters.idxOf? label.letter
  let row ← row? label.number
  some ⟨col, row⟩

end Label

end Worksheet
