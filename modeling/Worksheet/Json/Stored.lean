import Worksheet.Grid
import Worksheet.Json.Skip

namespace Worksheet

namespace Json

def escapeLetter? : Char → Option Char
  | '"' => some '"'
  | '\\' => some '\\'
  | '\x08' => some 'b'
  | '\x0c' => some 'f'
  | '\n' => some 'n'
  | '\r' => some 'r'
  | '\t' => some 't'
  | _ => none

def escape (c : Char) : List Char :=
  match escapeLetter? c with
  | some letter => ['\\', letter]
  | none =>
    if c.toNat < 0x20 then
      ['\\', 'u', '0', '0', Nat.digitChar (c.toNat / 16), Nat.digitChar (c.toNat % 16)]
    else [c]

def quote (text : String) : List Char := '"' :: text.toList.flatMap escape ++ ['"']

def natural : Scanner Nat :=
  (wholePart.after blanks).filterMap fun digits =>
    let number := Nat.ofDigitChars 10 digits 0
    if number < 0x10000000000000000 then some number else none

def null : Scanner Unit := (Scanner.word "null".toList).after blanks

def single? {α : Type} : List α → Option α
  | [item] => some item
  | _ => none

end Json

open Json

namespace Cell

def encode (cell : Cell) : String :=
  String.ofList ("\x7b\"raw\":".toList ++ quote cell.raw ++ ['\x7d'])

def rawMember (name : String) : Scanner (Option String) :=
  if name = "raw" then some <$> string else skip.giving none

def scan : Scanner (List String) := List.filterMap id <$> object rawMember <|> array string

/-- Reads a cell from an object, where its text is given once, or from an array of that text. It
    never comes with a value. -/
def decode? (text : String) : Option Cell :=
  ((read? scan text).bind single?).map Cell.ofText

end Cell

namespace Address

inductive Coordinate where
  | row (number : Nat)
  | col (number : Nat)
deriving DecidableEq

def Coordinate.row? : Coordinate → Option Nat
  | .row number => some number
  | .col _ => none

def Coordinate.col? : Coordinate → Option Nat
  | .row _ => none
  | .col number => some number

def encode (address : Address) : String :=
  String.ofList ("\x7b\"row\":".toList ++ Nat.toDigits 10 address.row ++
    ",\"col\":".toList ++ Nat.toDigits 10 address.col ++ ['\x7d'])

def coordinateMember (name : String) : Scanner (Option Coordinate) :=
  if name = "row" then (some ∘ .row) <$> natural
  else if name = "col" then (some ∘ .col) <$> natural
  else skip.giving none

def ofCoordinates? (coordinates : List Coordinate) : Option Address := do
  let row ← single? (coordinates.filterMap Coordinate.row?)
  let col ← single? (coordinates.filterMap Coordinate.col?)
  some ⟨col, row⟩

def ofPair? : List Nat → Option Address
  | [row, col] => some ⟨col, row⟩
  | _ => none

def scan : Scanner Address :=
  (object coordinateMember).filterMap (ofCoordinates? ∘ List.filterMap id)
    <|> (array natural).filterMap ofPair?

def decode? (text : String) : Option Address := read? scan text

end Address

namespace Policy

def encode (policy : Policy) : String := String.ofList (quote policy.name)

def scan : Scanner (List String) :=
  (· :: []) <$> string <|> object fun name => null.giving name

def decode? (text : String) : Option Policy :=
  ((read? scan text).bind single?).bind ofName?

end Policy

end Worksheet
