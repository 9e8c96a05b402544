import Worksheet.Binary64.Numeral
import Worksheet.Literal

namespace Worksheet

inductive Sign where
  | absent
  | plus
  | minus
deriving DecidableEq

namespace Sign

def chars : Sign → List Char
  | .absent => []
  | .plus => ['+']
  | .minus => ['-']

def negative : Sign → Bool
  | .minus => true
  | .absent | .plus => false

end Sign

@[ext]
structure Spelling where
  sign : Sign
  whole : Digits
  fraction : Digits
  nonempty : whole.chars ≠ []

namespace Spelling

def point : List Char → List Char
  | [] => []
  | digits => '.' :: digits

def chars (spelling : Spelling) : List Char :=
  spelling.sign.chars ++ (spelling.whole.chars ++ point spelling.fraction.chars)

def Unpadded (spelling : Spelling) : Prop := ¬ ['0', '0'] <+: spelling.whole.chars

def literal (spelling : Spelling) : Literal :=
  ⟨spelling.sign.negative, spelling.whole.chars, spelling.fraction.chars⟩

def size (spelling : Spelling) : ℚ :=
  spelling.whole.value + spelling.fraction.value / 10 ^ spelling.fraction.chars.length

def toRat (spelling : Spelling) : ℚ := Binary64.withSign spelling.sign.negative spelling.size

end Spelling

def Literal.Admits (text : String) : Prop :=
  ∃ spelling : Spelling, text.toList = spelling.chars ∧ spelling.Unpadded

end Worksheet
