import Worksheet.Binary64.Nearest

namespace Worksheet

structure Decimal where
  digits : Nat
  place : Int
deriving DecidableEq

namespace Binary64

/-- The numbers that round to one magnitude, counted in units of half of `10 ^ -1074`. Both ends
    belong to it exactly when the significand is even. -/
structure Basin where
  low : Nat
  high : Nat
  closed : Bool

def fine (magnitude : Nat) : Nat := scaled magnitude * Nat.pow 5 1074

def basin (magnitude : Nat) : Basin where
  low := fine (magnitude - 1) + fine magnitude
  high := fine magnitude + fine (magnitude + 1)
  closed := magnitude % 2 = 0

def Basin.contains (basin : Basin) (value : Nat) : Bool :=
  if basin.closed then basin.low ≤ 2 * value && 2 * value ≤ basin.high
  else basin.low < 2 * value && 2 * value < basin.high

/-- The neighbour of `value` among the multiples of `unit` that lies in the basin, as a count of
    units. Of two such neighbours the nearer one is taken, and the upper one in a tie. -/
def Basin.multiple? (basin : Basin) (value unit : Nat) : Option Nat :=
  let below := value / unit
  let lower := basin.contains (below * unit)
  let upper := basin.contains ((below + 1) * unit)
  if upper && (!lower || unit ≤ 2 * (value % unit)) then some (below + 1)
  else if lower then some below
  else none

def Basin.coarsest (basin : Basin) (value : Nat) : Nat → Nat × Nat
  | 0 => (value, 0)
  | place + 1 =>
    match basin.multiple? value (Nat.pow 10 (place + 1)) with
    | some count => (count, place + 1)
    | none => basin.coarsest value place

/-- An exponent whose power of ten exceeds the value, since `2 ^ 93 < 10 ^ 28`. -/
def reach (value : Nat) : Nat := (Nat.log2 value + 1) * 28 / 93 + 1

/-- The decimal of fewest digits that rounds to a nonzero finite magnitude, and of those the
    nearest. A coarser grid means fewer digits, so the search starts above the value. -/
def shortest (magnitude : Nat) : Decimal :=
  let value := fine magnitude
  let found := (basin magnitude).coarsest value (reach value)
  ⟨found.1, found.2 - 1074⟩

end Binary64

end Worksheet
