import Worksheet.Json.Scan

namespace Worksheet.Json

open Scanner (char choosing satisfying)

inductive Expected where
  | value
  | firstItem
  | firstName
  | name
  | colon
  | separator
deriving DecidableEq

inductive Bracket where
  | array
  | object
deriving DecidableEq

/-- How far reading past a value has come. Whatever the value consists of, there is no more to know
    than which brackets are open, the innermost one first. -/
abbrev Progress : Type := Expected × List Bracket

def skipCharacter : Scanner Unit :=
  (satisfying isPlain).giving ()
    <|> char '\\' *> ((choosing unescape?).giving () <|> codeUnit.giving ())

def skipString : Scanner Unit := (symbol '"').itemsAfter skipCharacter *> char '"'

def decimalDigits : Scanner (List Char) := .run Char.isDigit

def wholePart : Scanner (List Char) := (char '0').giving ['0'] <|> decimalDigits

def fraction : Scanner Unit := char '.' *> decimalDigits.giving ()

def sign : Scanner Unit := char '+' <|> char '-'

def exponent : Scanner Unit :=
  (char 'e' <|> char 'E') *> (sign *> decimalDigits <|> decimalDigits).giving ()

def skipUnsigned : Scanner Unit := ((wholePart.optionally fraction).optionally exponent).giving ()

def skipScalar : Scanner Unit :=
  skipString
    <|> symbol '-' *> skipUnsigned
    <|> skipUnsigned.after blanks
    <|> (Scanner.word "true".toList).after blanks
    <|> (Scanner.word "false".toList).after blanks
    <|> (Scanner.word "null".toList).after blanks

def beginValue (outer : List Bracket) : Scanner Progress :=
  (symbol '[').giving (.firstItem, .array :: outer)
    <|> (symbol '\x7b').giving (.firstName, .object :: outer)
    <|> skipScalar.giving (.separator, outer)

def skipName (brackets : List Bracket) : Scanner Progress := skipString.giving (.colon, brackets)

def skipComma : List Bracket → Scanner Progress
  | [] => .fail
  | .array :: outer => (symbol ',').giving (.value, .array :: outer)
  | .object :: outer => (symbol ',').giving (.name, .object :: outer)

def skipClose : List Bracket → Scanner Progress
  | [] => .fail
  | .array :: outer => (symbol ']').giving (.separator, outer)
  | .object :: outer => (symbol '\x7d').giving (.separator, outer)

def step : Progress → Scanner Progress
  | (.value, brackets) => beginValue brackets
  | (.firstItem, brackets) => skipClose brackets <|> beginValue brackets
  | (.firstName, brackets) => skipClose brackets <|> skipName brackets
  | (.name, brackets) => skipName brackets
  | (.colon, brackets) => (symbol ':').giving (.value, brackets)
  | (.separator, brackets) => skipComma brackets <|> skipClose brackets

def skip : Scanner Unit :=
  ((step (.value, [])).repeating step).filterMap fun progress =>
    if progress = (.separator, []) then some () else none

end Worksheet.Json
