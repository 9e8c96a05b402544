import Worksheet.Text.Digits

namespace Worksheet.Toml

open Scanner (char choosing satisfying word)

def isSpace (c : Char) : Bool := c = ' ' || c = '\t'

def spaces : Skipper := .characters isSpace

-- However a line ends, a text that spans it has one character there.
def lineBreak : Scanner (List Char) := (char '\n' <|> word ['\r', '\n']).giving ['\n']

def emptyLines : Skipper := .many ((· :: []) <$> satisfying isSpace <|> lineBreak)

def isPlain (c : Char) : Bool := c = '\t' || 0x20 ≤ c.toNat && c.toNat ≠ 0x7F

def unescape? : Char → Option Char
  | 'b' => some '\x08'
  | 't' => some '\t'
  | 'n' => some '\n'
  | 'f' => some '\x0c'
  | 'r' => some '\r'
  | '"' => some '"'
  | '\\' => some '\\'
  | _ => none

def escaped : Scanner Char :=
  choosing unescape?
    <|> char 'u' *> (digits 16 4).filterMap charOfCode?
    <|> char 'U' *> (digits 16 8).filterMap charOfCode?

inductive Quotation where
  | basic
  | literal
deriving DecidableEq

namespace Quotation

def mark : Quotation → Char
  | basic => '"'
  | literal => '\''

def isPlain (quotation : Quotation) (c : Char) : Bool :=
  Toml.isPlain c && c ≠ quotation.mark && !(quotation = .basic && c = '\\')

def escape : Quotation → Scanner Char
  | basic => char '\\' *> escaped
  | literal => .fail

def character (quotation : Quotation) : Scanner Char :=
  satisfying quotation.isPlain <|> quotation.escape

def short (quotation : Quotation) : Scanner String :=
  String.ofList <$> (.itemsAfter (char quotation.mark) quotation.character <* char quotation.mark)

def marks (quotation : Quotation) (count : Nat) : Scanner (List Char) :=
  (word (List.replicate count quotation.mark)).giving (List.replicate count quotation.mark)

def joint : Quotation → Scanner (List Char)
  | basic => char '\\' *> ((lineBreak.after spaces).skipping emptyLines).giving []
  | literal => .fail

/-- Reads a piece of a text that may span lines. One or two marks are a piece of it. -/
def piece (quotation : Quotation) : Scanner (List Char) :=
  (· :: []) <$> quotation.character
    <|> lineBreak
    <|> quotation.joint
    <|> (quotation.marks 1).ahead fun rest => rest.take 2 ≠ List.replicate 2 quotation.mark

def closing (quotation : Quotation) : Scanner (List Char) :=
  List.drop 3 <$> (quotation.marks 5 <|> quotation.marks 4 <|> quotation.marks 3)

def long (quotation : Quotation) : Scanner String :=
  .itemsAfter (quotation.marks 3 *> lineBreak <|> quotation.marks 3) quotation.piece >>=
    fun pieces => (fun extra => String.ofList (pieces.flatten ++ extra)) <$> quotation.closing

end Quotation

def shortText : Scanner String := Quotation.basic.short <|> Quotation.literal.short

def text : Scanner String := Quotation.basic.long <|> Quotation.literal.long <|> shortText

end Worksheet.Toml
