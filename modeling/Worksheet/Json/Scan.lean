import Worksheet.Text.Digits

namespace Worksheet.Json

open Scanner (char choosing satisfying)

def isBlank (c : Char) : Bool := c = ' ' || c = '\n' || c = '\t' || c = '\r'

def blanks : Skipper := .characters isBlank

def symbol (c : Char) : Scanner Unit := (char c).after blanks

def unescape? : Char → Option Char
  | '"' => some '"'
  | '\\' => some '\\'
  | '/' => some '/'
  | 'b' => some '\x08'
  | 'f' => some '\x0c'
  | 'n' => some '\n'
  | 'r' => some '\r'
  | 't' => some '\t'
  | _ => none

def isPlain (c : Char) : Bool := 0x20 ≤ c.toNat && c ≠ '"' && c ≠ '\\'

def isHighSurrogate (unit : Nat) : Bool := 0xD800 ≤ unit && unit < 0xDC00

def isLowSurrogate (unit : Nat) : Bool := 0xDC00 ≤ unit && unit < 0xE000

def charOfPair? (high low : Nat) : Option Char :=
  if isHighSurrogate high && isLowSurrogate low then
    charOfCode? (0x10000 + (high - 0xD800) * 0x400 + (low - 0xDC00))
  else none

def codeUnit : Scanner Nat := char 'u' *> digits 16 4

def surrogatePair : Scanner Char :=
  codeUnit >>= fun high => char '\\' *> codeUnit.filterMap (charOfPair? high)

def character : Scanner Char :=
  satisfying isPlain
    <|> char '\\' *> (choosing unescape? <|> codeUnit.filterMap charOfCode? <|> surrogatePair)

def string : Scanner String :=
  String.ofList <$> (.itemsAfter (symbol '"') character <* char '"')

def bracketed {α : Type} (openMark closeMark : Char) (item : Scanner α) : Scanner (List α) :=
  symbol openMark *>
    ((symbol closeMark).giving [] <|> item.separatedBy (symbol ',') <* symbol closeMark)

def array {α : Type} (item : Scanner α) : Scanner (List α) := bracketed '[' ']' item

def object {α : Type} (value : String → Scanner α) : Scanner (List α) :=
  bracketed '\x7b' '\x7d' (string >>= fun name => symbol ':' *> value name)

def read? {α : Type} (value : Scanner α) (text : String) : Option α :=
  value.whole blanks text.toList

end Worksheet.Json
