import Worksheet.Binary64.Basic

namespace Worksheet

def roundHalfEven (num den : Nat) : Nat :=
  let quotient := num / den
  let twice := 2 * (num % den)
  if twice < den then quotient
  else if den < twice then quotient + 1
  else quotient + quotient % 2

namespace Binary64

/-- Magnitude of the binary64 number nearest to `num / den`, ties to the even significand.
    A carry out of the significand lands on the next power of two by itself, because the
    significand is added to the exponent bits. -/
def nearest (num den : Nat) : Nat :=
  let units := num <<< 1074
  let shift := Nat.log2 (units / den) + 1 - 53
  min (shift * 0x10000000000000 + roundHalfEven units (den <<< shift)) infinite

theorem nearest_le_infinite (num den : Nat) : nearest num den ≤ infinite := Nat.min_le_right _ _

def ofRatio (negative : Bool) (num den : Nat) : Binary64 where
  negative := negative
  magnitude := nearest num den
  bound := Nat.lt_of_le_of_lt (nearest_le_infinite num den) (by decide)

end Binary64

end Worksheet
