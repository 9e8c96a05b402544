import Worksheet.Toml.Item
import Worksheet.Toml.Moment
import Worksheet.Toml.Number
import Worksheet.Toml.Quoted

namespace Worksheet.Toml

open Scanner (char word)

/-- Names may be linked, and values nested, to less than this depth. -/
def depthLimit : Nat := 80

structure Key where
  path : List String
  last : String
deriving DecidableEq

inductive Statement where
  | pair (key : Key) (item : Item)
  | header (key : Key)
  | element (key : Key)

def comment : Scanner Unit := (char '#').skipping (.characters isPlain)

def filler : Skipper := .many ((Scanner.run isSpace).giving () <|> lineBreak.giving () <|> comment)

def lineRest : Skipper := .many ((Scanner.run isSpace).giving () <|> comment)

def symbol (c : Char) : Scanner Unit := (char c).after spaces

def farSymbol (c : Char) : Scanner Unit := (char c).after filler

def isBare (c : Char) : Bool := c.isAlphanum || c = '_' || c = '-'

def name : Scanner String := String.ofList <$> .run isBare <|> shortText

def Key.ofNames? (names : List String) : Option Key :=
  if names.length < depthLimit then names.getLast?.map fun last => ⟨names.dropLast, last⟩ else none

def key : Scanner Key :=
  ((name.after spaces).separatedBy (symbol '.')).filterMap Key.ofNames?

def pair (value : Scanner Item) : Scanner (Key × Item) :=
  key >>= fun key => symbol '=' *> Prod.mk key <$> value.after spaces

def array (value : Scanner Item) : Scanner Item :=
  .array <$> (char '[' *>
    ((farSymbol ']').giving []
      <|> (value.after filler).separatedBy (farSymbol ',') <*
        (farSymbol ',' *> farSymbol ']' <|> farSymbol ']')))

def inlinePair (value : Scanner Item) (entries : Entries) : Scanner Entries :=
  (pair value).filterMap fun (key, item) =>
    (Entries.insert key.path key.last item .header entries).map (·.2)

def inlineTable (value : Scanner Item) : Scanner Item :=
  .table .closed <$> (char '\x7b' *>
    ((symbol '\x7d').giving []
      <|> (inlinePair value []).repeating (fun entries => symbol ',' *> inlinePair value entries) <*
        symbol '\x7d'))

def plainValue : Scanner Item :=
  .text <$> text
    <|> (word "true".toList).giving .scalar
    <|> (word "false".toList).giving .scalar
    <|> moment.giving .scalar
    <|> numeral.giving .scalar

def value : Nat → Scanner Item
  | 0 => plainValue
  | depth + 1 => array (value depth) <|> inlineTable (value depth) <|> plainValue

def statement : Scanner Statement :=
  .element <$> (word ['[', '['] *> key <* symbol ']' <* char ']')
    <|> .header <$> (char '[' *> key <* symbol ']')
    <|> (fun (key, item) => .pair key item) <$> pair (value (depthLimit - 1))

def atLineEnd : List Char → Bool
  | [] => true
  | '\n' :: _ => true
  | '\r' :: '\n' :: _ => true
  | _ => false

def line : Scanner Statement := ((statement.skipping lineRest).ahead atLineEnd).skipping filler

end Worksheet.Toml
