import Worksheet.Binary64.Shortest
import Worksheet.Literal

namespace Worksheet.Binary64

def infinity (negative : Bool) : Binary64 := ⟨negative, infinite, by decide⟩

def nan (negative : Bool) : Binary64 := ⟨negative, 0x7FF8000000000000, by decide⟩

def ofDecimal (negative : Bool) (decimal : Decimal) : Binary64 :=
  if decimal.place < 0 then ofRatio negative decimal.digits (Nat.pow 10 decimal.place.natAbs)
  else ofRatio negative (decimal.digits * Nat.pow 10 decimal.place.toNat) 1

def splitDigits (chars : List Char) : List Char × List Char :=
  (chars.takeWhile Char.isDigit, chars.dropWhile Char.isDigit)

def splitFraction : List Char → List Char × List Char
  | '.' :: rest => splitDigits rest
  | chars => ([], chars)

def exponent? : List Char → Option Int
  | [] => some 0
  | letter :: chars =>
    let (negative, digits) := Literal.splitSign chars
    if letter.toLower ≠ 'e' ∨ digits.isEmpty ∨ !digits.all Char.isDigit then none
    else
      let size : Int := Nat.ofDigitChars 10 digits 0
      some (if negative then -size else size)

def number? (negative : Bool) (chars : List Char) : Option Binary64 :=
  let (whole, rest) := splitDigits chars
  let (fraction, rest) := splitFraction rest
  if whole.isEmpty && fraction.isEmpty then none
  else (exponent? rest).map fun exponent =>
    ofDecimal negative ⟨Nat.ofDigitChars 10 (whole ++ fraction) 0, exponent - fraction.length⟩

/-- Reads a number in any notation: besides what can be typed into a cell, numbers with a power of
    ten or without digits on one side of the point, infinities, and what is not a number. Letters
    may be large or small. -/
def ofChars? (chars : List Char) : Option Binary64 :=
  let (negative, unsigned) := Literal.splitSign chars
  let word := unsigned.map Char.toLower
  if word = ['i', 'n', 'f'] ∨ word = ['i', 'n', 'f', 'i', 'n', 'i', 't', 'y'] then
    some (infinity negative)
  else if word = ['n', 'a', 'n'] then some (nan negative)
  else number? negative unsigned

end Worksheet.Binary64
