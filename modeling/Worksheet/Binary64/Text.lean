import Worksheet.Binary64.Shortest

namespace Worksheet

def pointed (digits : List Char) (places : Nat) : List Char :=
  let padded := List.replicate (places + 1 - digits.length) '0' ++ digits
  let whole := padded.length - places
  padded.take whole ++ '.' :: padded.drop whole

def signed (exponent : Int) : List Char :=
  (if exponent < 0 then ['-'] else []) ++ Nat.toDigits 10 exponent.natAbs

namespace Decimal

def positional (decimal : Decimal) : List Char :=
  let digits := Nat.toDigits 10 decimal.digits
  if decimal.place < 0 then pointed digits decimal.place.natAbs
  else digits ++ List.replicate decimal.place.toNat '0' ++ ['.', '0']

def scientific (decimal : Decimal) : List Char :=
  let digits := Nat.toDigits 10 decimal.digits
  let fraction := if digits.tail.isEmpty then ['0'] else digits.tail
  digits.headD '0' :: '.' :: fraction ++ 'E' :: signed (decimal.place + digits.tail.length)

end Decimal

namespace Binary64

def leastPositional : Nat := nearest 1 1000

def leastScientific : Nat := nearest 10000000 1

def IsPositional (magnitude : Nat) : Prop :=
  leastPositional ≤ magnitude ∧ magnitude < leastScientific

instance (magnitude : Nat) : Decidable (IsPositional magnitude) :=
  inferInstanceAs (Decidable (_ ∧ _))

def unsigned (magnitude : Nat) : List Char :=
  if magnitude = 0 then "0.0".toList
  else if magnitude = infinite then "Infinity".toList
  else if IsPositional magnitude then (shortest magnitude).positional
  else (shortest magnitude).scientific

def text (x : Binary64) : String :=
  if x.IsNaN then "NaN"
  else String.ofList ((if x.negative then ['-'] else []) ++ unsigned x.magnitude)

end Binary64

end Worksheet
