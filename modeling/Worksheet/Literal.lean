import Worksheet.Binary64.Nearest
import Worksheet.Fault

namespace Worksheet

structure Literal where
  negative : Bool
  whole : List Char
  fraction : List Char
deriving DecidableEq

namespace Literal

def splitSign : List Char → Bool × List Char
  | '-' :: rest => (true, rest)
  | '+' :: rest => (false, rest)
  | chars => (false, chars)

def fraction? : List Char → Option (List Char)
  | [] => some []
  | '.' :: digits => if digits.isEmpty || !digits.all Char.isDigit then none else some digits
  | _ => none

/-- Reads an optional sign, ASCII digits that do not begin with two zeros, and optionally a point
    and more digits. Nothing may stand before or after them. -/
def ofChars? (chars : List Char) : Option Literal :=
  let (negative, unsigned) := splitSign chars
  let whole := unsigned.takeWhile Char.isDigit
  if whole.isEmpty || ['0', '0'].isPrefixOf whole then none
  else (fraction? (unsigned.dropWhile Char.isDigit)).map (Literal.mk negative whole)

def value (literal : Literal) : Binary64 :=
  Binary64.ofRatio literal.negative (Nat.ofDigitChars 10 (literal.whole ++ literal.fraction) 0)
    (Nat.pow 10 literal.fraction.length)

def read (text : String) : Except Fault Binary64 :=
  match ofChars? text.toList with
  | some literal => .ok literal.value
  | none => .error (.badValue text)

end Literal

end Worksheet
