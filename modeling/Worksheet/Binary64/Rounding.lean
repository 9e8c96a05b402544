import Mathlib.Algebra.Order.Field.Rat
import Mathlib.Algebra.Order.Group.Abs
import Worksheet.Binary64.Shortest

namespace Worksheet

def Decimal.toRat (decimal : Decimal) : ℚ := decimal.digits * 10 ^ decimal.place

namespace Binary64

/-- The number that a magnitude denotes. Infinity stands at `2 ^ 1024`, where the next finite number
    would be. -/
def size (magnitude : Nat) : ℚ := scaled magnitude / 2 ^ 1074

def withSign (negative : Bool) (q : ℚ) : ℚ := if negative then -q else q

def toRat (x : Binary64) : ℚ := withSign x.negative (size x.magnitude)

/-- No number is nearer to `q`, the infinities included. If there is another one as near, the
    significand is even. -/
structure Rounds (q : ℚ) (x : Binary64) : Prop where
  number : ¬ x.IsNaN
  nearest : ∀ y : Binary64, ¬ y.IsNaN → |x.toRat - q| ≤ |y.toRat - q|
  even : ∀ y : Binary64, ¬ y.IsNaN → |x.toRat - q| = |y.toRat - q| →
    y.toRat = x.toRat ∨ significand x.magnitude % 2 = 0

structure Amid (below here above : ℚ) (even : Prop) (value : ℚ) : Prop where
  low : below + here ≤ 2 * value
  high : 2 * value ≤ here + above
  even : 2 * value = below + here ∨ 2 * value = here + above → even

structure Basin.Holds (basin : Basin) (value : ℚ) : Prop where
  low : basin.low ≤ 2 * value
  high : 2 * value ≤ basin.high
  closed : 2 * value = basin.low ∨ 2 * value = basin.high → basin.closed = true

end Binary64

end Worksheet
