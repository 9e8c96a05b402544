namespace Worksheet

/-- A binary64 number: its sign and the 63 bits below the sign. Read as numbers, the magnitudes
    up to infinity stand in the order of what they denote; the magnitudes above it are not
    numbers. -/
structure Binary64 where
  negative : Bool
  magnitude : Nat
  bound : magnitude < 0x8000000000000000
deriving DecidableEq

namespace Binary64

theorem ext_of {x y : Binary64} (sign : x.negative = y.negative)
    (size : x.magnitude = y.magnitude) : x = y := by
  cases x
  cases y
  cases sign
  cases size
  rfl

def infinite : Nat := 0x7FF0000000000000

def IsNaN (x : Binary64) : Prop := infinite < x.magnitude

instance (x : Binary64) : Decidable x.IsNaN := inferInstanceAs (Decidable (_ < _))

def Finite (x : Binary64) : Prop := x.magnitude < infinite

instance (x : Binary64) : Decidable x.Finite := inferInstanceAs (Decidable (_ < _))

def zero : Binary64 := ⟨false, 0, by decide⟩

instance : Inhabited Binary64 := ⟨zero⟩

def ofBits (word : UInt64) : Binary64 where
  negative := decide (0x8000000000000000 ≤ word.toNat)
  magnitude := word.toNat % 0x8000000000000000
  bound := Nat.mod_lt _ (by decide)

def bits (x : Binary64) : UInt64 :=
  UInt64.ofNat ((if x.negative then 0x8000000000000000 else 0) + x.magnitude)

theorem toNat_bits (x : Binary64) :
    x.bits.toNat = (if x.negative then 0x8000000000000000 else 0) + x.magnitude := by
  have bound := x.bound
  have fits : (if x.negative then 0x8000000000000000 else 0) + x.magnitude <
      0x10000000000000000 := by split <;> omega
  simp only [bits, UInt64.toNat_ofNat']
  exact Nat.mod_eq_of_lt fits

theorem ofBits_bits (x : Binary64) : ofBits x.bits = x := by
  have bound := x.bound
  apply ext_of
  · simp only [ofBits, toNat_bits]
    cases x.negative
    · simpa using bound
    · simp
  · simp only [ofBits, toNat_bits]
    cases x.negative
    · simpa using Nat.mod_eq_of_lt bound
    · simpa using Nat.mod_eq_of_lt bound

theorem bits_ofBits (word : UInt64) : (ofBits word).bits = word := by
  apply UInt64.toNat_inj.mp
  have bound := word.toNat_lt
  rw [toNat_bits]
  by_cases high : 0x8000000000000000 ≤ word.toNat
  · simp only [ofBits, high, decide_true, if_true]
    omega
  · simp only [ofBits, high, decide_false]
    simp
    omega

def shift (magnitude : Nat) : Nat := magnitude / 0x10000000000000 - 1

def significand (magnitude : Nat) : Nat := magnitude - shift magnitude * 0x10000000000000

/-- The number that a magnitude denotes, counted in units of `2 ^ -1074`. It is the exact value
    of every finite magnitude. -/
def scaled (magnitude : Nat) : Nat := significand magnitude <<< shift magnitude

end Binary64

end Worksheet
