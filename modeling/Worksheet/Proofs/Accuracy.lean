import Worksheet.Proofs.Displaying
import Worksheet.Proofs.Spelling

namespace Worksheet

namespace Binary64

/-- The magnitude of a number is the finite one nearest to `q`, and of two as near the one with the
    even significand. It is infinite if `q` is at least half-way from the greatest finite one to the
    next power of two. -/
structure Approximates (x : Binary64) (q : ℚ) : Prop where
  number : ¬ x.IsNaN
  zero : x.magnitude = 0 ↔ q ≤ 1 / 2 ^ 1075
  unbounded : x.magnitude = infinite ↔ 2 ^ 1024 - 2 ^ 970 ≤ q
  nearest : x.Finite → ∀ y : Binary64, y.Finite →
    |size x.magnitude - q| ≤ |size y.magnitude - q|
  even : x.Finite → ∀ y : Binary64, y.Finite →
    |size x.magnitude - q| = |size y.magnitude - q| →
      y.magnitude = x.magnitude ∨ significand x.magnitude % 2 = 0

section Ends

theorem size_one : size 1 = 2 * (1 / 2 ^ 1075) := by
  have counted : scaled 1 = 1 := by decide +kernel
  have halved : (1 : ℚ) / 2 ^ 1075 = 1 / 2 ^ 1074 / 2 := by rw [div_div, ← pow_succ]
  rw [size, counted, Nat.cast_one, halved]
  exact (mul_div_cancel₀ _ two_ne_zero).symm

theorem size_infinite : size infinite = 2 ^ 1024 := by
  have counted : scaled infinite = 2 ^ 1024 * 2 ^ 1074 := by decide +kernel
  rw [size_of_scaled counted, Nat.cast_pow, Nat.cast_ofNat]

theorem size_pred_infinite : size (infinite - 1) = 2 ^ 1024 - 2 * 2 ^ 970 := by
  have counted : scaled (infinite - 1) = (2 ^ 1024 - 2 * 2 ^ 970) * 2 ^ 1074 := by decide +kernel
  have less : 2 * 2 ^ 970 ≤ 2 ^ 1024 := by decide +kernel
  rw [size_of_scaled counted, Nat.cast_sub less, Nat.cast_mul, Nat.cast_pow, Nat.cast_pow,
    Nat.cast_ofNat]

theorem holds_half_least : (basin 0).Holds (1 / 2 ^ 1075 * 10 ^ 1074) := by
  have least : (0 : ℚ) ≤ 1 / 2 ^ 1075 := by positivity
  rw [holds_iff, Nat.zero_sub, Nat.zero_add, size_zero, size_one]
  generalize (1 : ℚ) / 2 ^ 1075 = half at *
  exact ⟨by linarith, by linarith, fun _ => rfl⟩

theorem holds_threshold : (basin infinite).Holds ((2 ^ 1024 - 2 ^ 970) * 10 ^ 1074) := by
  have next : size infinite ≤ size (infinite + 1) := size_strictMono.monotone (Nat.le_succ _)
  have gap : (0 : ℚ) ≤ 2 ^ 970 := by positivity
  rw [holds_iff, size_pred_infinite]
  rw [size_infinite] at next ⊢
  generalize (2 : ℚ) ^ 1024 = limit at *
  generalize (2 : ℚ) ^ 970 = gap at *
  exact ⟨by linarith, by linarith, fun _ => rfl⟩

end Ends

section Nearest

variable {num den num' den' : Nat} (positive : 0 < den)

include positive

theorem nearest_mono (positive' : 0 < den') (less : (num / den : ℚ) ≤ num' / den') :
    nearest num den ≤ nearest num' den' := by
  obtain ⟨first, rounded, inside⟩ := exists_nearest num positive
  obtain ⟨second, rounded', inside'⟩ := exists_nearest num' positive'
  have order := inside.le_of_le inside' (mul_le_mul_of_nonneg_right less (by positivity))
  omega

theorem nearest_eq_zero_iff : nearest num den = 0 ↔ (num / den : ℚ) ≤ 1 / 2 ^ 1075 := by
  obtain ⟨magnitude, rounded, inside⟩ := exists_nearest num positive
  have finite : 0 < infinite := by decide
  constructor
  · intro zero
    have none : magnitude = 0 := by omega
    have high := (holds_iff.mp inside).high
    rw [none, size_zero, Nat.zero_add, size_one] at high
    generalize (1 : ℚ) / 2 ^ 1075 = half at *
    linarith
  · intro less
    have order := inside.le_of_le holds_half_least
      (mul_le_mul_of_nonneg_right less (by positivity))
    omega

theorem nearest_eq_infinite_iff :
    nearest num den = infinite ↔ (2 ^ 1024 - 2 ^ 970 : ℚ) ≤ num / den := by
  obtain ⟨magnitude, rounded, inside⟩ := exists_nearest num positive
  constructor
  · intro unbounded
    have beyond : infinite ≤ magnitude := by omega
    have here : size infinite ≤ size magnitude := size_strictMono.monotone beyond
    have below : size (infinite - 1) ≤ size (magnitude - 1) :=
      size_strictMono.monotone (by omega)
    have low := (holds_iff.mp inside).low
    rw [size_infinite] at here
    rw [size_pred_infinite] at below
    generalize (2 : ℚ) ^ 1024 = limit at *
    generalize (2 : ℚ) ^ 970 = gap at *
    linarith
  · intro more
    have order := holds_threshold.le_of_le inside
      (mul_le_mul_of_nonneg_right more (by positivity))
    omega

theorem approximates_ofRatio (negative : Bool) :
    (ofRatio negative num den).Approximates (num / den) := by
  have number := Nat.not_lt.mpr (nearest_le_infinite num den)
  -- The sign does not matter here, so the number may as well have none.
  have rounds : (ofRatio negative num den).Finite → Rounds (num / den) (ofRatio false num den) := by
    intro finite
    exact rounds_of_amid number (holds_iff.mp ((nearest_eq_iff positive finite).mp rfl))
  refine ⟨number, nearest_eq_zero_iff positive, nearest_eq_infinite_iff positive, ?_, ?_⟩
  · intro finite y finite'
    exact (rounds finite).nearest ⟨false, y.magnitude, y.bound⟩ (Nat.not_lt.mpr finite'.le)
  · intro finite y finite' tie
    have even := (rounds finite).even ⟨false, y.magnitude, y.bound⟩ (Nat.not_lt.mpr finite'.le) tie
    exact even.imp_left fun same => size_strictMono.injective same

end Nearest

end Binary64

namespace Spelling

variable {first second : Spelling}

def digits (spelling : Spelling) : Nat :=
  Nat.ofDigitChars 10 (spelling.whole.chars ++ spelling.fraction.chars) 0

def denominator (spelling : Spelling) : Nat := Nat.pow 10 spelling.fraction.chars.length

theorem denominator_pos (spelling : Spelling) : 0 < spelling.denominator := Nat.pow_pos (by decide)

theorem value_literal (spelling : Spelling) : spelling.literal.value =
    Binary64.ofRatio spelling.sign.negative spelling.digits spelling.denominator := rfl

theorem size_eq_div (spelling : Spelling) :
    spelling.size = spelling.digits / spelling.denominator := by
  have unit : (10 : ℚ) ^ spelling.fraction.chars.length ≠ 0 := by positivity
  have shifted : spelling.digits = 10 ^ spelling.fraction.chars.length * spelling.whole.value +
      spelling.fraction.value := by
    rw [digits, Nat.ofDigitChars_append, Nat.ofDigitChars_eq_ofDigitChars_zero]
    rfl
  rw [size, shifted, denominator, Nat.pow_eq]
  push_cast
  rw [add_div, mul_div_cancel_left₀ _ unit]

theorem size_nonneg (spelling : Spelling) : 0 ≤ spelling.size := by
  unfold size
  positivity

theorem approximates_value (spelling : Spelling) :
    spelling.literal.value.Approximates spelling.size := by
  rw [size_eq_div, value_literal]
  exact Binary64.approximates_ofRatio spelling.denominator_pos _

theorem magnitude_value_mono (less : first.size ≤ second.size) :
    first.literal.value.magnitude ≤ second.literal.value.magnitude := by
  rw [size_eq_div, size_eq_div] at less
  exact Binary64.nearest_mono first.denominator_pos second.denominator_pos less

theorem size_value_mono (less : first.size ≤ second.size) :
    Binary64.size first.literal.value.magnitude ≤ Binary64.size second.literal.value.magnitude :=
  Binary64.size_strictMono.monotone (magnitude_value_mono less)

theorem size_value_eq_zero {spelling : Spelling} (none : spelling.size ≤ 0) :
    Binary64.size spelling.literal.value.magnitude = 0 := by
  have small : spelling.size ≤ 1 / 2 ^ 1075 := none.trans (by positivity)
  rw [spelling.approximates_value.zero.mpr small, Binary64.size_zero]

theorem toRat_value (spelling : Spelling) : spelling.literal.value.toRat =
    Binary64.withSign spelling.sign.negative (Binary64.size spelling.literal.value.magnitude) := rfl

theorem toRat_value_mono (less : first.toRat ≤ second.toRat) :
    first.literal.value.toRat ≤ second.literal.value.toRat := by
  have positive := first.size_nonneg
  have positive' := second.size_nonneg
  have rounded := Binary64.size_nonneg first.literal.value.magnitude
  have rounded' := Binary64.size_nonneg second.literal.value.magnitude
  rw [toRat_value, toRat_value]
  unfold toRat at less
  generalize first.sign.negative = sign at less ⊢
  generalize second.sign.negative = sign' at less ⊢
  cases sign <;> cases sign'
  all_goals simp only [Binary64.withSign, if_true, Bool.false_eq_true, if_false] at less ⊢
  case false.false => exact size_value_mono less
  case false.true =>
    -- Nothing but zero is positive and negative.
    rw [size_value_eq_zero (by linarith), size_value_eq_zero (by linarith), neg_zero]
  case true.false => linarith
  case true.true => exact neg_le_neg (size_value_mono (neg_le_neg_iff.mp less))

theorem value_eq_of_toRat_eq (same : first.toRat = second.toRat) (nonzero : first.toRat ≠ 0) :
    first.literal.value = second.literal.value := by
  have positive := first.size_nonneg
  have positive' := second.size_nonneg
  have parts : first.sign.negative = second.sign.negative ∧ first.size = second.size := by
    unfold toRat at same nonzero
    generalize first.sign.negative = sign at same nonzero ⊢
    generalize second.sign.negative = sign' at same ⊢
    cases sign <;> cases sign'
    all_goals simp only [Binary64.withSign, if_true, Bool.false_eq_true, if_false] at same nonzero
    case false.false => exact ⟨rfl, same⟩
    case false.true => exact absurd (by linarith) nonzero
    case true.false => exact absurd (by linarith) nonzero
    case true.true => exact ⟨rfl, neg_injective same⟩
  obtain ⟨sign, size⟩ := parts
  apply Binary64.ext_of sign
  exact Nat.le_antisymm (magnitude_value_mono size.le) (magnitude_value_mono size.ge)

theorem negative_value_iff (spelling : Spelling) :
    spelling.literal.value.negative = true ↔ spelling.chars.head? = some '-' := by
  obtain ⟨sign, whole, fraction, nonempty⟩ := spelling
  cases sign with
  | minus => exact ⟨fun _ => rfl, fun _ => rfl⟩
  | plus =>
    refine ⟨fun negative => absurd negative Bool.false_ne_true, fun front => ?_⟩
    exact absurd front (by decide : some '+' ≠ some '-')
  | absent =>
    refine ⟨fun negative => absurd negative Bool.false_ne_true, fun front => ?_⟩
    have first : (whole.chars ++ point fraction.chars).head? = some '-' := front
    rw [List.head?_append_of_ne_nil _ nonempty] at first
    exact absurd first whole.head_ne_minus

end Spelling

namespace Literal

/-- What is read is the number that is written, rounded once and with its sign kept. So numbers stay
    in their order, however they are written, and those that are equal become the same. -/
theorem read_rounds {text : String} {value : Binary64} (accepted : read text = .ok value) :
    (value.negative = true ↔ text.toList.head? = some '-') ∧
      ∃ spelling : Spelling, text.toList = spelling.chars ∧
        (∀ other : Spelling, text.toList = other.chars → other = spelling) ∧
        value.Approximates spelling.size ∧
        ∀ (other : Spelling) (further : Binary64),
          read (String.ofList other.chars) = .ok further →
            (spelling.toRat ≤ other.toRat → value.toRat ≤ further.toRat) ∧
              (spelling.toRat = other.toRat → spelling.toRat ≠ 0 →
                value.bits = further.bits) := by
  obtain ⟨spelling, chars, _, rfl⟩ := read_eq_ok_iff.mp accepted
  rw [chars]
  refine ⟨spelling.negative_value_iff, spelling, rfl, ?_, spelling.approximates_value, ?_⟩
  · intro other same
    exact Spelling.chars_injective same.symm
  · intro other further accepted'
    obtain ⟨spelling', chars', _, rfl⟩ := read_eq_ok_iff.mp accepted'
    rw [String.toList_ofList] at chars'
    obtain rfl := Spelling.chars_injective chars'
    refine ⟨Spelling.toRat_value_mono, fun same nonzero => ?_⟩
    rw [Spelling.value_eq_of_toRat_eq same nonzero]

theorem halfway_rounds :
    let value := Binary64.ofBits 0xC340000000000000
    read "-9007199254740993" = .ok value ∧ value.negative = true ∧
      ∃ spelling : Spelling, "-9007199254740993".toList = spelling.chars ∧
        value.Approximates spelling.size := by
  intro value
  have accepted : read "-9007199254740993" = .ok value := by decide +kernel
  obtain ⟨sign, spelling, chars, _, approximates, _⟩ := read_rounds accepted
  exact ⟨accepted, sign.mpr rfl, spelling, chars, approximates⟩

end Literal

end Worksheet
