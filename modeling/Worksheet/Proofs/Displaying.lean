import Worksheet.Proofs.Numeral
import Worksheet.Proofs.Shortest

namespace Worksheet

theorem length_toDigits_bounds {number : Nat} (positive : 0 < number) :
    let width := (Nat.toDigits 10 number).length
    0 < width ∧ number < 10 ^ width ∧ 10 ^ (width - 1) ≤ number := by
  intro width
  have some : 0 < width := List.length_pos_iff.mpr Nat.toDigits_ne_nil
  refine ⟨some, (Nat.length_toDigits_le_iff (by decide) some).mp le_rfl, ?_⟩
  rcases Nat.eq_zero_or_pos (width - 1) with single | more
  · rw [single]
    exact positive
  · by_contra short
    have shorter := (Nat.length_toDigits_le_iff (by decide) more).mpr (Nat.lt_of_not_le short)
    omega

theorem Decimal.toRat_bounds {decimal : Decimal} (positive : 0 < decimal.digits) :
    10 ^ decimal.exponent ≤ decimal.toRat ∧ decimal.toRat < 10 ^ (decimal.exponent + 1) := by
  obtain ⟨some, below, above⟩ := length_toDigits_bounds positive
  unfold Decimal.exponent
  generalize (Nat.toDigits 10 decimal.digits).length = width at *
  have unit : (0 : ℚ) < 10 ^ decimal.place := zpow_pos (by decide) _
  have least : decimal.place + width - 1 = ((width - 1 : Nat) : ℤ) + decimal.place := by omega
  have greatest : decimal.place + width - 1 + 1 = (width : ℤ) + decimal.place := by omega
  constructor
  · rw [least, zpow_add₀ (by decide), zpow_natCast]
    exact mul_le_mul_of_nonneg_right (by exact_mod_cast above) unit.le
  · rw [greatest, zpow_add₀ (by decide), zpow_natCast]
    exact mul_lt_mul_of_pos_right (by exact_mod_cast below) unit

namespace Binary64

theorem leastPositional_finite : leastPositional < infinite := by decide +kernel

theorem size_leastScientific : size leastScientific = 10 ^ 7 := by
  have counted : scaled leastScientific = 10 ^ 7 * 2 ^ 1074 := by decide +kernel
  rw [size_of_scaled counted, Nat.cast_pow, Nat.cast_ofNat]

theorem abs_toRat (x : Binary64) : |x.toRat| = size x.magnitude := by
  have positive := size_nonneg x.magnitude
  unfold toRat withSign
  split
  · rw [abs_neg, abs_of_nonneg positive]
  · exact abs_of_nonneg positive

theorem middling_iff {x : Binary64} : x.Middling ↔ IsPositional x.magnitude := by
  constructor
  · intro ⟨_, least, greatest⟩
    rw [abs_toRat] at least greatest
    rw [← size_leastScientific] at greatest
    exact ⟨size_strictMono.le_iff_le.mp least, size_strictMono.lt_iff_lt.mp greatest⟩
  · intro ⟨least, greatest⟩
    have limit : leastScientific < infinite := by decide +kernel
    refine ⟨Nat.lt_trans greatest limit, ?_, ?_⟩
    · rw [abs_toRat]
      exact size_strictMono.monotone least
    · rw [abs_toRat, ← size_leastScientific]
      exact size_strictMono greatest

theorem rounds_iff {x : Binary64} {q : ℚ} (finite : x.Finite) (nonzero : 0 < x.magnitude) :
    Rounds q x ↔ (basin x.magnitude).Holds (withSign x.negative q * 10 ^ 1074) := by
  rw [holds_iff]
  exact ⟨amid_of_rounds finite nonzero, rounds_of_amid (Nat.not_lt.mpr (Nat.le_of_lt finite))⟩

def decimal (magnitude : Nat) : Decimal := if magnitude = 0 then ⟨0, 0⟩ else shortest magnitude

theorem decimal_of_pos {magnitude : Nat} (nonzero : 0 < magnitude) :
    decimal magnitude = shortest magnitude := if_neg nonzero.ne'

theorem holds_decimal (magnitude : Nat) :
    (basin magnitude).Holds ((decimal magnitude).toRat * 10 ^ 1074) := by
  unfold decimal
  split
  · rename_i zero
    have next := size_nonneg (0 + 1)
    have value : Decimal.toRat ⟨0, 0⟩ = 0 := by rw [Decimal.toRat, Nat.cast_zero, zero_mul]
    rw [zero, value, holds_iff, size_zero]
    exact ⟨by linarith, by linarith, fun _ => rfl⟩
  · rename_i nonzero
    exact holds_shortest (Nat.pos_of_ne_zero nonzero)

section Extreme

variable {magnitude : Nat} (nonzero : 0 < magnitude)

include nonzero

theorem exponent_of_small (small : magnitude < leastPositional) :
    (shortest magnitude).exponent ≤ -4 := by
  have inside : (basin leastPositional).Holds (1 / 1000 * 10 ^ 1074) := by
    have rounded := (nearest_eq_iff (by decide) leastPositional_finite).mp
      (rfl : nearest 1 1000 = leastPositional)
    exact_mod_cast rounded
  have power : (10 : ℚ) ^ (shortest magnitude).exponent < 10 ^ (-3 : ℤ) := by
    calc (10 : ℚ) ^ (shortest magnitude).exponent ≤ (shortest magnitude).toRat :=
          (Decimal.toRat_bounds (digits_pos nonzero)).1
      _ < 1 / 1000 := shortest_lt nonzero inside small
      _ = 10 ^ (-3 : ℤ) := by norm_num
  have order := (zpow_lt_zpow_iff_right₀ (by decide)).mp power
  omega

theorem exponent_of_large (large : leastScientific ≤ magnitude) :
    7 ≤ (shortest magnitude).exponent := by
  have tens : (10 : ℚ) ^ 7 ≤ size magnitude := by
    rw [← size_leastScientific]
    exact size_strictMono.monotone large
  have power : (10 : ℚ) ^ (7 : ℤ) < 10 ^ ((shortest magnitude).exponent + 1) := by
    calc (10 : ℚ) ^ (7 : ℤ) = 10 ^ 7 := by norm_num
      _ ≤ (shortest magnitude).toRat := pow_le_shortest nonzero tens
      _ < 10 ^ ((shortest magnitude).exponent + 1) :=
          (Decimal.toRat_bounds (digits_pos nonzero)).2
  have order := (zpow_lt_zpow_iff_right₀ (by decide)).mp power
  omega

theorem exponent_of_not_positional (extreme : ¬ IsPositional magnitude) :
    7 ≤ (shortest magnitude).exponent ∨ (shortest magnitude).exponent ≤ -4 := by
  rcases Nat.lt_or_ge magnitude leastPositional with small | least
  · exact .inr (exponent_of_small nonzero small)
  · have large : leastScientific ≤ magnitude := by
      by_contra less
      exact extreme ⟨least, Nat.lt_of_not_le less⟩
    exact .inl (exponent_of_large nonzero large)

end Extreme

structure Shows (x : Binary64) (numeral : Numeral) : Prop where
  text : x.text = String.ofList numeral.chars
  sign : numeral.negative = x.negative
  spells : numeral.Spells (decimal x.magnitude)
  positional : x.magnitude = 0 ∨ x.Middling → numeral.Positional
  scientific : ¬ (x.magnitude = 0 ∨ x.Middling) → numeral.Scientific

theorem text_of_number {x : Binary64} (number : ¬ x.IsNaN) :
    x.text = String.ofList (minus x.negative ++ unsigned x.magnitude) := if_neg number

theorem exists_shows {x : Binary64} (finite : x.Finite) : ∃ numeral, x.Shows numeral := by
  have text := text_of_number (Nat.not_lt.mpr (Nat.le_of_lt finite))
  have bounded : x.magnitude ≠ infinite := Nat.ne_of_lt finite
  rcases Nat.eq_zero_or_pos x.magnitude with zero | nonzero
  · obtain ⟨numeral, chars, sign, positional, spells⟩ := exists_zero x.negative
    rw [zero] at text
    refine ⟨numeral, chars ▸ text, sign, ?_, fun _ => positional,
      fun other => absurd (.inl zero) other⟩
    rw [zero]
    exact spells
  · have last := digits_mod_ten nonzero
    rw [unsigned, if_neg nonzero.ne', if_neg bounded] at text
    rw [← decimal_of_pos nonzero] at text last
    by_cases middling : x.Middling
    · rw [if_pos (middling_iff.mp middling)] at text
      obtain ⟨numeral, chars, sign, positional, spells⟩ := exists_positional last x.negative
      exact ⟨numeral, chars ▸ text, sign, spells, fun _ => positional,
        fun extreme => absurd (.inr middling) extreme⟩
    · have extreme : ¬ IsPositional x.magnitude := fun inside => middling (middling_iff.mpr inside)
      have exponent := exponent_of_not_positional nonzero extreme
      rw [if_neg extreme] at text
      rw [← decimal_of_pos nonzero] at exponent
      obtain ⟨numeral, chars, sign, scientific, spells⟩ :=
        exists_scientific last x.negative exponent
      refine ⟨numeral, chars ▸ text, sign, spells, ?_, fun _ => scientific⟩
      rintro (zero | inside)
      · exact absurd zero nonzero.ne'
      · exact absurd inside middling

theorem withSign_of_ne {first second : Bool} (different : first ≠ second) (q : ℚ) :
    withSign first (withSign second q) = -q := by
  cases first <;> cases second <;> simp [withSign] at different ⊢

namespace Shows

variable {x : Binary64} {numeral : Numeral} (shows : x.Shows numeral)

include shows

theorem toRat_eq : withSign x.negative numeral.toRat = (decimal x.magnitude).toRat := by
  rw [shows.spells.toRat_eq, shows.sign, withSign_withSign]

theorem holds : (basin x.magnitude).Holds (withSign x.negative numeral.toRat * 10 ^ 1074) := by
  rw [shows.toRat_eq]
  exact holds_decimal x.magnitude

theorem significant_le (finite : x.Finite) (nonzero : 0 < x.magnitude) {other : Numeral}
    (rounds : Rounds other.toRat x) : numeral.significant ≤ other.significant := by
  obtain ⟨count, exponent, value, short⟩ := other.exists_count
  have inside := (rounds_iff finite nonzero).mp rounds
  rw [value] at inside
  by_cases same : x.negative = other.negative
  · rw [same, withSign_withSign] at inside
    have positive := digits_pos nonzero
    have fewer := digits_lt_of_holds nonzero inside short
    have some : 0 < other.significant := by
      by_contra none
      rw [Nat.eq_zero_of_not_pos none] at fewer
      omega
    have spelled := shows.spells.significant_le
    rw [decimal_of_pos nonzero] at spelled
    exact (spelled positive).trans ((Nat.length_toDigits_le_iff (by decide) some).mpr fewer)
  · rw [withSign_of_ne same, neg_mul] at inside
    have positive := neg_pos.mp (pos_of_holds nonzero inside)
    have least : (0 : ℚ) ≤ count * 10 ^ exponent * 10 ^ 1074 := by positivity
    exact absurd positive least.not_gt

theorem displays (finite : x.Finite) (nonzero : 0 < x.magnitude) : numeral.Displays x := by
  constructor
  case positional => exact fun middling => shows.positional (.inr middling)
  case scientific =>
    intro extreme
    apply shows.scientific
    rintro (zero | middling)
    · exact absurd zero nonzero.ne'
    · exact extreme middling
  case fraction => exact shows.spells.nonempty
  case trimmed => exact shows.spells.trimmed
  case rounds => exact (rounds_iff finite nonzero).mpr shows.holds
  case shortest =>
    intro other fewer rounds
    have least := shows.significant_le finite nonzero rounds
    omega

end Shows

theorem text_of_infinite {x : Binary64} (number : ¬ x.IsNaN) (unbounded : ¬ x.Finite) :
    x.magnitude = infinite ∧ x.text = String.ofList (minus x.negative ++ "Infinity".toList) := by
  have magnitude : x.magnitude = infinite :=
    Nat.le_antisymm (Nat.not_lt.mp number) (Nat.not_lt.mp unbounded)
  refine ⟨magnitude, ?_⟩
  rw [text_of_number number, magnitude]
  rfl

theorem text_ne_of_finite {x y : Binary64} (finite : x.Finite) (number : ¬ y.IsNaN)
    (unbounded : ¬ y.Finite) : x.text ≠ y.text := by
  intro same
  obtain ⟨numeral, shows⟩ := exists_shows finite
  rw [shows.text, (text_of_infinite number unbounded).2, String.ofList_inj] at same
  -- No numeral has a letter other than the one in front of its power.
  have letter : 'I' ∈ numeral.chars := by
    rw [same]
    exact List.mem_append_right _ List.mem_cons_self
  rcases Numeral.isDigit_or_mark letter with digit | mark
  · cases digit
  · exact absurd mark (by decide)

theorem text_injective {x y : Binary64} (number : ¬ x.IsNaN) (number' : ¬ y.IsNaN)
    (same : x.text = y.text) : x = y := by
  by_cases finite : x.Finite <;> by_cases finite' : y.Finite
  · obtain ⟨numeral, shows⟩ := exists_shows finite
    obtain ⟨numeral', shows'⟩ := exists_shows finite'
    rw [shows.text, shows'.text, String.ofList_inj] at same
    cases Numeral.chars_injective same
    have sign : x.negative = y.negative := shows.sign.symm.trans shows'.sign
    have inside := shows.holds
    rw [sign] at inside
    exact ext_of sign (inside.unique shows'.holds)
  · exact absurd same (text_ne_of_finite finite number' finite')
  · exact absurd same.symm (text_ne_of_finite finite' number finite)
  · obtain ⟨magnitude, text⟩ := text_of_infinite number finite
    obtain ⟨magnitude', text'⟩ := text_of_infinite number' finite'
    rw [text, text', String.ofList_inj] at same
    obtain ⟨sign, _⟩ := minus_append_inj (by decide) (by decide) same
    exact ext_of sign (magnitude.trans magnitude'.symm)

/-- What a number is displayed as is canonical, rounds to the number, and is nothing else's. -/
theorem text_canonical :
    (∀ x : Binary64, x.Finite → x.magnitude ≠ 0 →
      ∃ numeral : Numeral, x.text = String.ofList numeral.chars ∧ numeral.Displays x) ∧
    ∀ x y : Binary64, ¬ x.IsNaN → ¬ y.IsNaN → x.text = y.text → x.bits = y.bits := by
  constructor
  · intro x finite nonzero
    obtain ⟨numeral, shows⟩ := exists_shows finite
    exact ⟨numeral, shows.text, shows.displays finite (Nat.pos_of_ne_zero nonzero)⟩
  · intro x y number number' same
    exact congrArg bits (text_injective number number' same)

end Binary64

end Worksheet
