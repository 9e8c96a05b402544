import Mathlib.Data.List.DropRight
import Worksheet.Binary64.Rounding

namespace Worksheet

@[ext]
structure Digits where
  chars : List Char
  digital : ∀ c ∈ chars, c.isDigit = true

namespace Digits

def ofNat (number : Nat) : Digits :=
  ⟨Nat.toDigits 10 number, fun _ => Nat.isDigit_of_mem_toDigits (by decide) (Nat.le_refl 10)⟩

def value (digits : Digits) : Nat := Nat.ofDigitChars 10 digits.chars 0

end Digits

def minus (negative : Bool) : List Char := if negative then ['-'] else []

def trim (chars : List Char) : List Char :=
  (chars.dropWhile (· == '0')).rdropWhile (· == '0')

structure Power where
  negative : Bool
  digits : Digits

namespace Power

def exponent (power : Power) : Int :=
  if power.negative then -power.digits.value else power.digits.value

def chars (power : Power) : List Char := 'E' :: (minus power.negative ++ power.digits.chars)

end Power

/-- A decimal as it is written: a minus sign or none, digits on both sides of a point, and a power
    of ten or none. -/
structure Numeral where
  negative : Bool
  whole : Digits
  fraction : Digits
  power : Option Power

namespace Numeral

def digits (numeral : Numeral) : List Char := numeral.whole.chars ++ numeral.fraction.chars

def exponent (numeral : Numeral) : Int := numeral.power.elim 0 Power.exponent

def powerChars (numeral : Numeral) : List Char := numeral.power.elim [] Power.chars

def chars (numeral : Numeral) : List Char :=
  minus numeral.negative ++
    (numeral.whole.chars ++ '.' :: (numeral.fraction.chars ++ numeral.powerChars))

def toRat (numeral : Numeral) : ℚ :=
  Binary64.withSign numeral.negative (Nat.ofDigitChars 10 numeral.digits 0 *
    10 ^ (numeral.exponent - numeral.fraction.chars.length))

def significant (numeral : Numeral) : Nat := (trim numeral.digits).length

structure Positional (numeral : Numeral) : Prop where
  unpowered : numeral.power = none
  whole : numeral.whole.chars ≠ []
  unpadded : numeral.whole.chars.head? = some '0' → numeral.whole.chars = ['0']

structure Scientific (numeral : Numeral) : Prop where
  whole : ∃ first, numeral.whole.chars = [first] ∧ first ≠ '0'
  power : ∃ power, numeral.power = some power ∧
    power.digits.chars ≠ [] ∧ power.digits.chars.head? ≠ some '0'
  exponent : 7 ≤ numeral.exponent ∨ numeral.exponent ≤ -4

end Numeral

namespace Binary64

structure Middling (x : Binary64) : Prop where
  finite : x.Finite
  least : size (nearest 1 1000) ≤ |x.toRat|
  greatest : |x.toRat| < 10 ^ 7

end Binary64

structure Numeral.Displays (numeral : Numeral) (x : Binary64) : Prop where
  positional : x.Middling → numeral.Positional
  scientific : ¬ x.Middling → numeral.Scientific
  fraction : numeral.fraction.chars ≠ []
  trimmed : numeral.fraction.chars.getLast? = some '0' → numeral.fraction.chars = ['0']
  rounds : Binary64.Rounds numeral.toRat x
  shortest : ∀ other : Numeral, other.significant < numeral.significant →
    ¬ Binary64.Rounds other.toRat x

end Worksheet
