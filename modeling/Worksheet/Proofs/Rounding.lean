import Mathlib.Tactic.Linarith
import Mathlib.Tactic.LinearCombination
import Mathlib.Tactic.Positivity
import Mathlib.Tactic.Ring
import Worksheet.Binary64.Nearest
import Worksheet.Binary64.Rounding
import Worksheet.Binary64.Shortest

namespace Worksheet

theorem roundHalfEven_eq_or {num den : Nat} :
    roundHalfEven num den = num / den ∨ roundHalfEven num den = num / den + 1 := by
  unfold roundHalfEven
  dsimp only
  split
  · exact .inl rfl
  · split
    · exact .inr rfl
    · omega

theorem roundHalfEven_near (num : Nat) {den : Nat} (positive : 0 < den) :
    let count := roundHalfEven num den
    2 * (count * den) ≤ 2 * num + den ∧ 2 * num ≤ 2 * (count * den) + den ∧
      (2 * (count * den) = 2 * num + den ∨ 2 * num = 2 * (count * den) + den →
        count % 2 = 0) := by
  have split := Nat.div_add_mod num den
  have short := Nat.mod_lt num positive
  rw [Nat.mul_comm] at split
  have next : (num / den + 1) * den = num / den * den + den := Nat.succ_mul _ _
  unfold roundHalfEven
  dsimp only
  by_cases below : 2 * (num % den) < den
  · rw [if_pos below]
    omega
  · by_cases above : den < 2 * (num % den)
    · rw [if_neg below, if_pos above, next]
      omega
    · rw [if_neg below, if_neg above]
      rcases Nat.mod_two_eq_zero_or_one (num / den) with even | odd
      · rw [even, Nat.add_zero]
        omega
      · rw [odd, next]
        omega

namespace Binary64

theorem scaled_add {shift count : Nat} (normal : shift = 0 ∨ 0x10000000000000 ≤ count)
    (fits : count ≤ 0x20000000000000) :
    scaled (shift * 0x10000000000000 + count) = count * 2 ^ shift := by
  have carried : count = 0x20000000000000 ∨ count < 0x20000000000000 := by omega
  rcases carried with carry | room
  · have next : Binary64.shift (shift * 0x10000000000000 + count) = shift + 1 := by
      unfold Binary64.shift
      omega
    have least : significand (shift * 0x10000000000000 + count) = 0x10000000000000 := by
      rw [significand, next]
      omega
    rw [scaled, next, least, carry, Nat.shiftLeft_eq, Nat.pow_succ]
    omega
  · have same : Binary64.shift (shift * 0x10000000000000 + count) = shift := by
      unfold Binary64.shift
      omega
    have rest : significand (shift * 0x10000000000000 + count) = count := by
      rw [significand, same]
      omega
    rw [scaled, same, rest, Nat.shiftLeft_eq]

theorem eq_shift_add_significand (magnitude : Nat) :
    magnitude = shift magnitude * 0x10000000000000 + significand magnitude := by
  unfold significand shift
  omega

theorem significand_normal (magnitude : Nat) :
    shift magnitude = 0 ∨ 0x10000000000000 ≤ significand magnitude := by
  unfold significand shift
  omega

theorem significand_lt (magnitude : Nat) : significand magnitude < 0x20000000000000 := by
  unfold significand shift
  omega

theorem significand_even (magnitude : Nat) : significand magnitude % 2 = magnitude % 2 := by
  have parts := eq_shift_add_significand magnitude
  omega

theorem scaled_eq (magnitude : Nat) :
    scaled magnitude = significand magnitude * 2 ^ shift magnitude := by
  rw [scaled, Nat.shiftLeft_eq]

theorem scaled_succ (magnitude : Nat) :
    scaled (magnitude + 1) = scaled magnitude + 2 ^ shift magnitude := by
  have normal := significand_normal magnitude
  have room := significand_lt magnitude
  have next : magnitude + 1 =
      shift magnitude * 0x10000000000000 + (significand magnitude + 1) := by
    have parts := eq_shift_add_significand magnitude
    omega
  rw [next, scaled_add (by omega) (by omega), scaled_eq, Nat.succ_mul]

theorem scaled_strictMono : StrictMono scaled := by
  apply strictMono_nat_of_lt_succ
  intro magnitude
  have step := Nat.two_pow_pos (shift magnitude)
  rw [scaled_succ]
  omega

theorem scaled_zero : scaled 0 = 0 := rfl

theorem cast_mul_five_pow (count places : Nat) :
    ((count * Nat.pow 5 places : Nat) : ℚ) = count / 2 ^ places * 10 ^ places := by
  have ten : (10 : ℚ) ^ places = 2 ^ places * 5 ^ places := by
    rw [← mul_pow]
    norm_num
  have halves : (2 : ℚ) ^ places ≠ 0 := by positivity
  rw [ten, ← mul_assoc, div_mul_cancel₀ _ halves, Nat.pow_eq, Nat.cast_mul, Nat.cast_pow,
    Nat.cast_ofNat]

theorem cast_fine (magnitude : Nat) : (fine magnitude : ℚ) = size magnitude * 10 ^ 1074 := by
  unfold fine size
  generalize (1074 : Nat) = places
  exact cast_mul_five_pow (scaled magnitude) places

theorem size_strictMono : StrictMono size := by
  intro smaller larger less
  have order : (scaled smaller : ℚ) < scaled larger := by exact_mod_cast scaled_strictMono less
  exact div_lt_div_of_pos_right order (by positivity)

theorem size_of_scaled {magnitude count : Nat} (counted : scaled magnitude = count * 2 ^ 1074) :
    size magnitude = count := by
  have units : (2 : ℚ) ^ 1074 ≠ 0 := by positivity
  rw [size, counted, Nat.cast_mul, Nat.cast_pow, Nat.cast_ofNat, mul_div_cancel_right₀ _ units]

theorem size_zero : size 0 = 0 := by rw [size, scaled_zero, Nat.cast_zero, zero_div]

theorem fine_strictMono : StrictMono fine := by
  intro smaller larger less
  have order : (fine smaller : ℚ) < fine larger := by
    rw [cast_fine, cast_fine]
    exact mul_lt_mul_of_pos_right (size_strictMono less) (by positivity)
  exact_mod_cast order

namespace Basin.Holds

variable {basin : Basin} {value lesser greater : ℚ} {magnitude other : Nat}

theorem between (least : basin.Holds lesser) (greatest : basin.Holds greater)
    (above : lesser ≤ value) (below : value ≤ greater) : basin.Holds value := by
  obtain ⟨low, _, closedLow⟩ := least
  obtain ⟨_, high, closedHigh⟩ := greatest
  refine ⟨by linarith, by linarith, ?_⟩
  rintro (same | same)
  · exact closedLow (.inl (by linarith))
  · exact closedHigh (.inr (by linarith))

theorem le_of_le (first : (Binary64.basin magnitude).Holds lesser)
    (second : (Binary64.basin other).Holds greater) (less : lesser ≤ greater) :
    magnitude ≤ other := by
  by_contra reversed
  have step : other + 1 ≤ magnitude := by omega
  obtain ⟨low, _, closedLow⟩ := first
  obtain ⟨_, high, closedHigh⟩ := second
  have near : fine (other + 1) ≤ fine magnitude := fine_strictMono.monotone step
  have far : fine other ≤ fine (magnitude - 1) := fine_strictMono.monotone (by omega)
  simp only [Binary64.basin, Nat.cast_add] at low high closedLow closedHigh
  have near' : (fine (other + 1) : ℚ) ≤ fine magnitude := by exact_mod_cast near
  have far' : (fine other : ℚ) ≤ fine (magnitude - 1) := by exact_mod_cast far
  -- The two basins touch, so both are closed, which neighbours never are.
  have touching : (fine (other + 1) : ℚ) = fine magnitude := by linarith
  have neighbours : other + 1 = magnitude := fine_strictMono.injective (by exact_mod_cast touching)
  have even := closedLow (.inl (by linarith))
  have even' := closedHigh (.inr (by linarith))
  simp only [decide_eq_true_eq] at even even'
  omega

theorem unique (first : (Binary64.basin magnitude).Holds value)
    (second : (Binary64.basin other).Holds value) : magnitude = other :=
  Nat.le_antisymm (first.le_of_le second le_rfl) (second.le_of_le first le_rfl)

end Basin.Holds

theorem contains_iff_holds {basin : Basin} {value : Nat} :
    basin.contains value = true ↔ basin.Holds value := by
  have counted : basin.Holds value ↔ basin.low ≤ 2 * value ∧ 2 * value ≤ basin.high ∧
      (2 * value = basin.low ∨ 2 * value = basin.high → basin.closed = true) := by
    constructor
    · rintro ⟨low, high, closed⟩
      exact ⟨by exact_mod_cast low, by exact_mod_cast high, by exact_mod_cast closed⟩
    · rintro ⟨low, high, closed⟩
      exact ⟨by exact_mod_cast low, by exact_mod_cast high, by exact_mod_cast closed⟩
  rw [counted]
  unfold Basin.contains
  cases basin.closed
  all_goals
    simp
    try omega

theorem holds_fine {magnitude : Nat} (positive : 0 < magnitude) :
    (basin magnitude).Holds (fine magnitude) := by
  have below : (fine (magnitude - 1) : ℚ) < fine magnitude := by
    exact_mod_cast fine_strictMono (show magnitude - 1 < magnitude by omega)
  have above : (fine magnitude : ℚ) < fine (magnitude + 1) := by
    exact_mod_cast fine_strictMono (Nat.lt_succ_self magnitude)
  constructor
  all_goals simp only [basin, Nat.cast_add]
  · linarith
  · linarith
  · rintro (same | same) <;> linarith

theorem Amid.scale_iff {below here above value factor : ℚ} {even : Prop} (positive : 0 < factor) :
    Amid (below * factor) (here * factor) (above * factor) even (value * factor) ↔
      Amid below here above even value := by
  constructor
  · rintro ⟨low, high, ends⟩
    rw [← add_mul, ← mul_assoc] at low high ends
    rw [← add_mul, mul_left_inj' positive.ne', mul_left_inj' positive.ne'] at ends
    exact ⟨le_of_mul_le_mul_right low positive, le_of_mul_le_mul_right high positive, ends⟩
  · rintro ⟨low, high, ends⟩
    constructor
    case low =>
      rw [← add_mul, ← mul_assoc]
      exact mul_le_mul_of_nonneg_right low positive.le
    case high =>
      rw [← add_mul, ← mul_assoc]
      exact mul_le_mul_of_nonneg_right high positive.le
    case even =>
      rw [← add_mul, ← add_mul, ← mul_assoc, mul_left_inj' positive.ne',
        mul_left_inj' positive.ne']
      exact ends

/-- A basin ends half-way to the neighbours of its magnitude. -/
theorem holds_iff {magnitude : Nat} {q : ℚ} : (basin magnitude).Holds (q * 10 ^ 1074) ↔
    Amid (size (magnitude - 1)) (size magnitude) (size (magnitude + 1)) (magnitude % 2 = 0) q := by
  have positive : (0 : ℚ) < 10 ^ 1074 := by positivity
  rw [← Amid.scale_iff positive, ← cast_fine, ← cast_fine, ← cast_fine]
  constructor
  · rintro ⟨low, high, closed⟩
    simp only [basin, Nat.cast_add, decide_eq_true_eq] at low high closed
    exact ⟨low, high, closed⟩
  · rintro ⟨low, high, even⟩
    constructor
    all_goals simp only [basin, Nat.cast_add, decide_eq_true_eq]
    · exact low
    · exact high
    · exact even

section Nearest

theorem shift_bounds (units : Nat) {den : Nat} (positive : 0 < den) :
    let shift := Nat.log2 (units / den) + 1 - 53
    units < 0x20000000000000 * (den * 2 ^ shift) ∧
      (shift = 0 ∨ 0x10000000000000 * (den * 2 ^ shift) ≤ units) := by
  intro shift
  have cut : 0x20000000000000 * 2 ^ shift = 2 ^ (53 + shift) := by rw [Nat.pow_add]
  have high : units / den < 0x20000000000000 * 2 ^ shift := by
    have bits : Nat.log2 (units / den) + 1 ≤ 53 + shift := by omega
    rw [cut]
    exact Nat.lt_of_lt_of_le Nat.lt_log2_self (Nat.pow_le_pow_right (by decide) bits)
  constructor
  · have less := (Nat.div_lt_iff_lt_mul positive).mp high
    calc units < 0x20000000000000 * 2 ^ shift * den := less
      _ = 0x20000000000000 * (den * 2 ^ shift) := by ring
  · by_cases subnormal : shift = 0
    · exact .inl subnormal
    · right
      have bits : Nat.log2 (units / den) = 52 + shift := by omega
      have nonzero : units / den ≠ 0 := by
        intro none
        rw [none, Nat.log2_zero] at bits
        omega
      have low : 0x10000000000000 * 2 ^ shift ≤ units / den := by
        have least := Nat.log2_self_le nonzero
        rw [bits, Nat.pow_add] at least
        exact least
      calc 0x10000000000000 * (den * 2 ^ shift) = 0x10000000000000 * 2 ^ shift * den := by ring
        _ ≤ units := (Nat.le_div_iff_mul_le positive).mp low

theorem shift_le {shift count : Nat} (normal : shift = 0 ∨ 0x10000000000000 ≤ count) :
    shift ≤ Binary64.shift (shift * 0x10000000000000 + count) := by
  unfold Binary64.shift
  omega

section Count

variable {shift count : Nat} {units : ℚ} (normal : shift = 0 ∨ 0x10000000000000 ≤ count)
  (fits : count ≤ 0x20000000000000)

include normal fits

theorem high_of_count (near : 2 * units ≤ 2 * (count * 2 ^ shift) + 2 ^ shift)
    (even : 2 * units = 2 * (count * 2 ^ shift) + 2 ^ shift → count % 2 = 0) :
    let magnitude := shift * 0x10000000000000 + count
    2 * units ≤ scaled magnitude + scaled (magnitude + 1) ∧
      (2 * units = scaled magnitude + scaled (magnitude + 1) → magnitude % 2 = 0) := by
  intro magnitude
  have here : (scaled magnitude : ℚ) = count * 2 ^ shift := by
    exact_mod_cast scaled_add normal fits
  have above : (scaled magnitude : ℚ) + 2 ^ shift ≤ scaled (magnitude + 1) := by
    have wide : shift ≤ Binary64.shift magnitude := shift_le normal
    have step := Nat.pow_le_pow_right (show 0 < 2 by decide) wide
    have next := scaled_succ magnitude
    exact_mod_cast (show scaled magnitude + 2 ^ shift ≤ scaled (magnitude + 1) by omega)
  refine ⟨by linarith, ?_⟩
  intro tie
  have halfway := even (by linarith)
  omega

theorem low_of_count (whole : shift = 0 ∨ 0x10000000000000 * 2 ^ shift ≤ units)
    (positive : 0 ≤ units) (near : 2 * (count * 2 ^ shift) ≤ 2 * units + 2 ^ shift)
    (even : 2 * (count * 2 ^ shift) = 2 * units + 2 ^ shift → count % 2 = 0) :
    let magnitude := shift * 0x10000000000000 + count
    scaled (magnitude - 1) + scaled magnitude ≤ 2 * units ∧
      (2 * units = scaled (magnitude - 1) + scaled magnitude → magnitude % 2 = 0) := by
  intro magnitude
  have here : (scaled magnitude : ℚ) = count * 2 ^ shift := by
    exact_mod_cast scaled_add normal fits
  by_cases least : shift = 0 ∧ count = 0
  · obtain ⟨unshifted, none⟩ := least
    have zero : magnitude = 0 := by omega
    rw [zero]
    simpa [scaled_zero] using positive
  · by_cases inner : shift = 0 ∨ 0x10000000000000 ≤ count - 1
    · have before : magnitude - 1 = shift * 0x10000000000000 + (count - 1) := by omega
      have some : 1 ≤ count := by omega
      have below : (scaled (magnitude - 1) : ℚ) = (count - 1) * 2 ^ shift := by
        have lesser := scaled_add inner (by omega)
        rw [before, lesser]
        push_cast [Nat.cast_sub some]
        rfl
      refine ⟨by linarith, ?_⟩
      intro tie
      have halfway := even (by linarith)
      omega
    · -- The gap below a power of two is narrower, but the number does not lie in it.
      have power : count = 0x10000000000000 := by omega
      have above := whole.resolve_left (by omega)
      have below : (scaled (magnitude - 1) : ℚ) < scaled magnitude := by
        exact_mod_cast scaled_strictMono (show magnitude - 1 < magnitude by omega)
      rw [power] at here
      push_cast at here
      exact ⟨by linarith, fun tie => by linarith⟩

end Count

theorem count_near (units : Nat) {den : Nat} (positive : 0 < den) (shift : Nat) :
    let count := roundHalfEven units (den * 2 ^ shift)
    let exact : ℚ := units / den
    2 * (count * 2 ^ shift) ≤ 2 * exact + 2 ^ shift ∧
      2 * exact ≤ 2 * (count * 2 ^ shift) + 2 ^ shift ∧
        (2 * (count * 2 ^ shift) = 2 * exact + 2 ^ shift ∨
          2 * exact = 2 * (count * 2 ^ shift) + 2 ^ shift → count % 2 = 0) := by
  intro count exact
  have size : (0 : ℚ) < den := by exact_mod_cast positive
  have whole : exact * den = units := div_mul_cancel₀ _ size.ne'
  have unit : 0 < den * 2 ^ shift := Nat.mul_pos positive (Nat.two_pow_pos shift)
  obtain ⟨low, high, even⟩ := roundHalfEven_near units unit
  refine ⟨?_, ?_, ?_⟩
  · have low : (2 * (count * (den * 2 ^ shift)) : ℚ) ≤ 2 * units + den * 2 ^ shift := by
      exact_mod_cast low
    refine le_of_mul_le_mul_right ?_ size
    rw [← whole] at low
    linarith
  · have high : (2 * units : ℚ) ≤ 2 * (count * (den * 2 ^ shift)) + den * 2 ^ shift := by
      exact_mod_cast high
    refine le_of_mul_le_mul_right ?_ size
    rw [← whole] at high
    linarith
  · intro tie
    apply even
    rcases tie with tie | tie
    · left
      have tie : (2 * (count * (den * 2 ^ shift)) : ℚ) = 2 * units + den * 2 ^ shift := by
        rw [← whole]
        linear_combination (den : ℚ) * tie
      exact_mod_cast tie
    · right
      have tie : (2 * units : ℚ) = 2 * (count * (den * 2 ^ shift)) + den * 2 ^ shift := by
        rw [← whole]
        linear_combination (den : ℚ) * tie
      exact_mod_cast tie

theorem count_bounds (units : Nat) {den : Nat} (positive : 0 < den) :
    let shift := Nat.log2 (units / den) + 1 - 53
    let count := roundHalfEven units (den * 2 ^ shift)
    (shift = 0 ∨ 0x10000000000000 ≤ count) ∧ count ≤ 0x20000000000000 := by
  intro shift count
  have unit : 0 < den * 2 ^ shift := Nat.mul_pos positive (Nat.two_pow_pos shift)
  obtain ⟨below, above⟩ := shift_bounds units positive
  have less : units / (den * 2 ^ shift) < 0x20000000000000 :=
    (Nat.div_lt_iff_lt_mul unit).mpr below
  have more : shift = 0 ∨ 0x10000000000000 ≤ units / (den * 2 ^ shift) :=
    above.imp_right (Nat.le_div_iff_mul_le unit).mpr
  have rounded : count = units / (den * 2 ^ shift) ∨ count = units / (den * 2 ^ shift) + 1 :=
    roundHalfEven_eq_or
  omega

theorem magnitude_near (units : Nat) {den : Nat} (positive : 0 < den) :
    let shift := Nat.log2 (units / den) + 1 - 53
    let magnitude := shift * 0x10000000000000 + roundHalfEven units (den <<< shift)
    Amid (scaled (magnitude - 1)) (scaled magnitude) (scaled (magnitude + 1)) (magnitude % 2 = 0)
      (units / den) := by
  intro shift magnitude
  have size : (0 : ℚ) < den := by exact_mod_cast positive
  obtain ⟨normal, fits⟩ := count_bounds units positive
  obtain ⟨low, high, even⟩ := count_near units positive shift
  rw [← Nat.shiftLeft_eq] at normal fits low high even
  have whole : shift = 0 ∨ (0x10000000000000 : ℚ) * 2 ^ shift ≤ units / den := by
    refine (shift_bounds units positive).2.imp_right fun more => ?_
    rw [le_div_iff₀ size]
    calc (0x10000000000000 : ℚ) * 2 ^ shift * den = 0x10000000000000 * (den * 2 ^ shift) := by ring
      _ ≤ units := by exact_mod_cast more
  have least : (0 : ℚ) ≤ units / den := div_nonneg (Nat.cast_nonneg units) size.le
  obtain ⟨above, evenAbove⟩ :=
    low_of_count normal fits whole least low fun tie => even (.inl tie)
  obtain ⟨below, evenBelow⟩ := high_of_count normal fits high fun tie => even (.inr tie)
  exact ⟨above, below, fun tie => tie.elim evenAbove evenBelow⟩

theorem cast_shiftLeft (num places : Nat) : ((num <<< places : Nat) : ℚ) = num * 2 ^ places := by
  rw [Nat.shiftLeft_eq, Nat.cast_mul, Nat.cast_pow, Nat.cast_ofNat]

theorem size_mul (magnitude : Nat) : size magnitude * 2 ^ 1074 = scaled magnitude := by
  have positive : (0 : ℚ) < 2 ^ 1074 := by positivity
  exact div_mul_cancel₀ _ positive.ne'

/-- What is rounded lies in the basin of the magnitude that would be the answer if there were no
    infinity. -/
theorem exists_nearest (num : Nat) {den : Nat} (positive : 0 < den) :
    ∃ magnitude, nearest num den = min magnitude infinite ∧
      (basin magnitude).Holds (num / den * 10 ^ 1074) := by
  have unit : (0 : ℚ) < 2 ^ 1074 := by positivity
  have near := magnitude_near (num <<< 1074) positive
  refine ⟨_, rfl, holds_iff.mpr ?_⟩
  rw [← Amid.scale_iff unit, size_mul, size_mul, size_mul, div_mul_eq_mul_div, ← cast_shiftLeft]
  exact near

theorem nearest_eq_iff {num den magnitude : Nat} (positive : 0 < den)
    (finite : magnitude < infinite) :
    nearest num den = magnitude ↔ (basin magnitude).Holds (num / den * 10 ^ 1074) := by
  obtain ⟨unbounded, rounded, holds⟩ := exists_nearest num positive
  constructor
  · intro same
    have equal : unbounded = magnitude := by omega
    exact equal ▸ holds
  · intro inside
    have equal := holds.unique inside
    omega

end Nearest

section Rounds

theorem Amid.nearer {below here above value other : ℚ} {even : Prop}
    (amid : Amid below here above even value) (lower : below ≤ here) (upper : here ≤ above)
    (outer : other ≤ below ∨ above ≤ other) :
    |here - value| ≤ |other - value| ∧ (|here - value| = |other - value| → other = here ∨ even) := by
  obtain ⟨low, high, ends⟩ := amid
  rcases outer with outer | outer
  · have far : value - other ≤ |other - value| := neg_sub other value ▸ neg_le_abs _
    refine ⟨abs_le.mpr ⟨by linarith, by linarith⟩, ?_⟩
    intro tie
    rcases le_total value here with less | more
    · rw [abs_of_nonneg (sub_nonneg.mpr less)] at tie
      exact .inr (ends (.inl (by linarith)))
    · rw [abs_of_nonpos (sub_nonpos.mpr more)] at tie
      exact .inl (by linarith)
  · have far : other - value ≤ |other - value| := le_abs_self _
    refine ⟨abs_le.mpr ⟨by linarith, by linarith⟩, ?_⟩
    intro tie
    rcases le_total value here with less | more
    · rw [abs_of_nonneg (sub_nonneg.mpr less)] at tie
      exact .inl (by linarith)
    · rw [abs_of_nonpos (sub_nonpos.mpr more)] at tie
      exact .inr (ends (.inr (by linarith)))

theorem Amid.of_nearer {below here above value : ℚ} {even : Prop} (lower : below < here)
    (upper : here < above) (low : |here - value| ≤ |below - value|)
    (high : |here - value| ≤ |above - value|)
    (evenLow : |here - value| = |below - value| → even)
    (evenHigh : |here - value| = |above - value| → even) : Amid below here above even value := by
  constructor
  case low =>
    by_contra beyond
    have far : |below - value| < here - value := abs_lt.mpr ⟨by linarith, by linarith⟩
    have near := le_abs_self (here - value)
    linarith
  case high =>
    by_contra beyond
    have far : |above - value| < value - here := abs_lt.mpr ⟨by linarith, by linarith⟩
    have near := neg_le_abs (here - value)
    linarith
  case even =>
    rintro (tie | tie)
    · apply evenLow
      rw [abs_of_nonneg (by linarith), abs_of_nonpos (by linarith)]
      linarith
    · apply evenHigh
      rw [abs_of_nonpos (by linarith), abs_of_nonneg (by linarith)]
      linarith

theorem withSign_withSign (negative : Bool) (q : ℚ) :
    withSign negative (withSign negative q) = q := by
  cases negative <;> simp [withSign]

theorem abs_withSign_sub (negative : Bool) (p q : ℚ) :
    |withSign negative p - q| = |p - withSign negative q| := by
  cases negative
  · rfl
  · simp only [withSign, if_true]
    rw [abs_sub_comm, sub_neg_eq_add, sub_neg_eq_add, add_comm]

theorem size_nonneg (magnitude : Nat) : 0 ≤ size magnitude := by
  unfold size
  positivity

theorem toRat_outer (x y : Binary64) : y.toRat = x.toRat ∨
    withSign x.negative y.toRat ≤ size (x.magnitude - 1) ∨
      size (x.magnitude + 1) ≤ withSign x.negative y.toRat := by
  have flipped : withSign x.negative y.toRat = size y.magnitude ∨
      withSign x.negative y.toRat = -size y.magnitude := by
    unfold toRat
    cases x.negative <;> cases y.negative <;> simp [withSign]
  rcases flipped with same | opposite
  · rcases Nat.lt_trichotomy y.magnitude x.magnitude with less | equal | more
    · right
      left
      rw [same]
      exact size_strictMono.monotone (by omega)
    · left
      rw [equal] at same
      rw [← withSign_withSign x.negative y.toRat, same, toRat]
    · right
      right
      rw [same]
      exact size_strictMono.monotone more
  · right
    left
    have positive := size_nonneg y.magnitude
    have below := size_nonneg (x.magnitude - 1)
    linarith

theorem rounds_of_amid {x : Binary64} {q : ℚ} (number : ¬ x.IsNaN)
    (amid : Amid (size (x.magnitude - 1)) (size x.magnitude) (size (x.magnitude + 1))
      (x.magnitude % 2 = 0) (withSign x.negative q)) : Rounds q x := by
  have lower : size (x.magnitude - 1) ≤ size x.magnitude :=
    size_strictMono.monotone (Nat.sub_le _ _)
  have upper : size x.magnitude ≤ size (x.magnitude + 1) :=
    size_strictMono.monotone (Nat.le_succ _)
  have here : |x.toRat - q| = |size x.magnitude - withSign x.negative q| :=
    abs_withSign_sub x.negative (size x.magnitude) q
  have nearer : ∀ y : Binary64, |x.toRat - q| ≤ |y.toRat - q| ∧
      (|x.toRat - q| = |y.toRat - q| → y.toRat = x.toRat ∨ x.magnitude % 2 = 0) := by
    intro y
    rcases toRat_outer x y with same | outer
    · rw [same]
      exact ⟨le_rfl, fun _ => .inl rfl⟩
    · have there : |y.toRat - q| = |withSign x.negative y.toRat - withSign x.negative q| := by
        rw [abs_withSign_sub, withSign_withSign]
      rw [here, there]
      obtain ⟨nearest, even⟩ := amid.nearer lower upper outer
      refine ⟨nearest, fun tie => (even tie).imp_left fun same => ?_⟩
      rw [← withSign_withSign x.negative y.toRat, same, toRat]
  refine ⟨number, fun y _ => (nearer y).1, fun y _ tie => ?_⟩
  rw [significand_even]
  exact (nearer y).2 tie

theorem amid_of_rounds {x : Binary64} {q : ℚ} (finite : x.Finite) (nonzero : 0 < x.magnitude)
    (rounds : Rounds q x) :
    Amid (size (x.magnitude - 1)) (size x.magnitude) (size (x.magnitude + 1))
      (x.magnitude % 2 = 0) (withSign x.negative q) := by
  have here : |x.toRat - q| = |size x.magnitude - withSign x.negative q| :=
    abs_withSign_sub x.negative (size x.magnitude) q
  have even := rounds.even
  rw [significand_even] at even
  -- Of the numbers that are no nearer only those on both sides matter.
  have side : ∀ other : Nat, other ≤ infinite → other ≠ x.magnitude →
      |size x.magnitude - withSign x.negative q| ≤ |size other - withSign x.negative q| ∧
        (|size x.magnitude - withSign x.negative q| = |size other - withSign x.negative q| →
          x.magnitude % 2 = 0) := by
    intro other number different
    let y : Binary64 := ⟨x.negative, other, Nat.lt_of_le_of_lt number (by decide)⟩
    have there : |y.toRat - q| = |size other - withSign x.negative q| :=
      abs_withSign_sub x.negative (size other) q
    have apart : y.toRat ≠ x.toRat := by
      intro same
      have sizes := congrArg (withSign x.negative) same
      simp only [toRat, y, withSign_withSign] at sizes
      exact different (size_strictMono.injective sizes)
    rw [← here, ← there]
    refine ⟨rounds.nearest y (Nat.not_lt.mpr number), fun tie => ?_⟩
    exact (even y (Nat.not_lt.mpr number) tie).resolve_left apart
  obtain ⟨low, evenLow⟩ := side (x.magnitude - 1) (by unfold Finite at finite; omega) (by omega)
  obtain ⟨high, evenHigh⟩ := side (x.magnitude + 1) finite (by omega)
  have lower : size (x.magnitude - 1) < size x.magnitude := size_strictMono (by omega)
  have upper : size x.magnitude < size (x.magnitude + 1) := size_strictMono (Nat.lt_succ_self _)
  exact .of_nearer lower upper low high evenLow evenHigh

end Rounds

end Binary64

end Worksheet
