import Worksheet.Text.Digits

namespace Worksheet.Toml

open Scanner (char choosing word)

def digitRun (base : Nat) : Scanner (List Nat) :=
  let digit : Scanner Nat := choosing (digitIn? base)
  List.reverse <$> ((· :: []) <$> digit).repeating fun read =>
    (· :: read) <$> (digit <|> char '_' *> digit)

def wholeRun : Scanner (List Nat) := (char '0').giving [0] <|> digitRun 10

def numberOf (base : Nat) (digits : List Nat) : Nat :=
  digits.foldl (fun number digit => base * number + digit) 0

def significant (digits : List Nat) : List Nat := digits.dropWhile (· = 0)

def fits (base : Nat) (negative : Bool) (digits : List Nat) : Bool :=
  ((significant digits).drop 64).isEmpty &&
    numberOf base digits < 0x8000000000000000 + (if negative then 1 else 0)

/-- Whether a decimal number is so large that the nearest binary64 number is infinite. Only the
    first 309 digits in front of the point can matter. -/
def overflows (whole fraction : List Nat) (exponent : Int) : Bool :=
  let digits := significant (whole ++ fraction)
  let leading : Int := digits.length - fraction.length + exponent
  if digits.isEmpty || leading < 309 then false
  else if 309 < leading then true
  else
    let first := digits.take 309
    (1 <<< 1024) - (1 <<< 970) ≤ numberOf 10 first * Nat.pow 10 (309 - first.length)

def exponentSize (digits : List Nat) : Int := numberOf 10 ((significant digits).take 20)

def exponent : Scanner Int :=
  (char 'e' <|> char 'E') *>
    ((- exponentSize ·) <$> (char '-' *> digitRun 10)
      <|> exponentSize <$> (char '+' *> digitRun 10 <|> digitRun 10))

def fraction : Scanner (List Nat) := char '.' *> digitRun 10

/-- Whether a decimal number is accepted. A whole number must fit into 64 bits, and a positive
    number with a point or an exponent must not be too large for binary64. -/
def isDecimal (negative : Bool) (whole : List Nat) : Option (List Nat) → Option Int → Bool
  | none, none => fits 10 negative whole
  | fraction, exponent => negative || !overflows whole (fraction.getD []) (exponent.getD 0)

def decimal (negative : Bool) : Scanner Unit :=
  ((wholeRun.optionally fraction).optionally exponent).filterMap
    fun ((whole, fraction), exponent) => guard (isDecimal negative whole fraction exponent)

def based (base : Nat) : Scanner Unit :=
  (digitRun base).filterMap fun digits => guard (fits base false digits)

def unsignedNumber (negative : Bool) : Scanner Unit :=
  word ['i', 'n', 'f'] <|> word ['n', 'a', 'n'] <|> decimal negative

def numeral : Scanner Unit :=
  char '+' *> unsignedNumber false
    <|> char '-' *> unsignedNumber true
    <|> word ['0', 'x'] *> based 16
    <|> word ['0', 'o'] *> based 8
    <|> word ['0', 'b'] *> based 2
    <|> unsignedNumber false

end Worksheet.Toml
