import Worksheet.Text.Scanner

namespace Worksheet

def hexDigit? (c : Char) : Option Nat :=
  if c.isDigit then some (c.toNat - '0'.toNat)
  else if 'a' ≤ c ∧ c ≤ 'f' then some (c.toNat - 'a'.toNat + 10)
  else if 'A' ≤ c ∧ c ≤ 'F' then some (c.toNat - 'A'.toNat + 10)
  else none

def digitIn? (base : Nat) (c : Char) : Option Nat := (hexDigit? c).filter (· < base)

def hexNumber? (digits : List Char) : Option Nat :=
  digits.foldlM (fun number c => (hexDigit? c).map (16 * number + ·)) 0

def digits (base : Nat) : Nat → Scanner Nat
  | 0 => .fail
  | 1 => .choosing (digitIn? base)
  | count + 2 =>
    digits base (count + 1) >>= fun number =>
      (base * number + ·) <$> Scanner.choosing (digitIn? base)

def charOfCode? (code : Nat) : Option Char :=
  if code.isValidChar then some (Char.ofNat code) else none

end Worksheet
