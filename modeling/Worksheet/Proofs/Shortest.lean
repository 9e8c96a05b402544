import Mathlib.Algebra.Order.Field.Power
import Worksheet.Proofs.Rounding

namespace Worksheet.Binary64

section Coarsest

variable {basin : Basin} {value unit count : Nat}

theorem Basin.Holds.multiple (inside : basin.Holds value) (positive : 0 < unit)
    (other : basin.Holds (count * unit : Nat)) :
    basin.Holds (value / unit * unit : Nat) ∨ basin.Holds ((value / unit + 1) * unit : Nat) := by
  have below : value / unit * unit ≤ value := Nat.div_mul_le_self value unit
  have above : value < (value / unit + 1) * unit :=
    Nat.lt_mul_of_div_lt (Nat.lt_succ_self _) positive
  rcases Nat.lt_or_ge (value / unit) count with more | less
  · right
    have beyond : (value / unit + 1) * unit ≤ count * unit := Nat.mul_le_mul_right unit more
    exact inside.between other (by exact_mod_cast above.le) (by exact_mod_cast beyond)
  · left
    have beyond : count * unit ≤ value / unit * unit := Nat.mul_le_mul_right unit less
    exact other.between inside (by exact_mod_cast beyond) (by exact_mod_cast below)

theorem holds_of_multiple? (found : basin.multiple? value unit = some count) :
    basin.Holds (count * unit : Nat) := by
  unfold Basin.multiple? at found
  dsimp only at found
  split at found
  · rename_i upper
    cases found
    rw [Bool.and_eq_true] at upper
    exact contains_iff_holds.mp upper.1
  · split at found
    · rename_i lower
      cases found
      exact contains_iff_holds.mp lower
    · cases found

theorem not_holds_of_multiple? (inside : basin.Holds value) (positive : 0 < unit)
    (missing : basin.multiple? value unit = none) (count : Nat) :
    ¬ basin.Holds (count * unit : Nat) := by
  intro other
  unfold Basin.multiple? at missing
  dsimp only at missing
  have neighbour := inside.multiple positive other
  rw [← contains_iff_holds, ← contains_iff_holds] at neighbour
  split at missing
  · cases missing
  · rename_i upper
    split at missing
    · cases missing
    · rename_i lower
      have last := neighbour.resolve_left lower
      simp [last, lower] at upper

structure Coarsest (basin : Basin) (count place : Nat) : Prop where
  inside : basin.Holds (count * 10 ^ place : Nat)
  coarser : ∀ other : Nat, ¬ basin.Holds (other * 10 ^ (place + 1) : Nat)

theorem coarsest_of_outside (inside : basin.Holds value) (start : Nat)
    (outside : ∀ other : Nat, ¬ basin.Holds (other * 10 ^ (start + 1) : Nat)) :
    Coarsest basin (basin.coarsest value start).1 (basin.coarsest value start).2 := by
  induction start with
  | zero => exact ⟨by simpa [Basin.coarsest] using inside, outside⟩
  | succ place ih =>
    -- A grid that is passed over has no point in the basin, so the next one may start from there.
    unfold Basin.coarsest
    cases found : basin.multiple? value (Nat.pow 10 (place + 1)) with
    | some count => exact ⟨holds_of_multiple? found, outside⟩
    | none =>
      apply ih
      exact not_holds_of_multiple? inside (Nat.pow_pos (by decide)) found

theorem Coarsest.not_holds {digits place power : Nat} (coarsest : Coarsest basin digits place)
    (coarse : place < power) (count : Nat) : ¬ basin.Holds (count * 10 ^ power : Nat) := by
  have whole : count * 10 ^ power = count * 10 ^ (power - (place + 1)) * 10 ^ (place + 1) := by
    rw [Nat.mul_assoc, ← Nat.pow_add]
    congr 2
    omega
  rw [whole]
  exact coarsest.coarser _

end Coarsest

theorem lt_pow_reach (value : Nat) : value < 10 ^ reach value := by
  have bits : value < 2 ^ (Nat.log2 value + 1) := Nat.lt_log2_self
  -- The logarithm to the base ten is compared as the fraction that `reach` takes it for.
  have tens : 28 * (Nat.log2 value + 1) ≤ 93 * reach value := by
    unfold reach
    omega
  have powers : (2 ^ (Nat.log2 value + 1)) ^ 93 ≤ (10 ^ reach value) ^ 93 := by
    calc (2 ^ (Nat.log2 value + 1)) ^ 93 = (2 ^ 93) ^ (Nat.log2 value + 1) := by
          rw [← Nat.pow_mul, ← Nat.pow_mul, Nat.mul_comm]
      _ ≤ (10 ^ 28) ^ (Nat.log2 value + 1) := Nat.pow_le_pow_left (by decide) _
      _ = 10 ^ (28 * (Nat.log2 value + 1)) := by rw [← Nat.pow_mul]
      _ ≤ 10 ^ (93 * reach value) := Nat.pow_le_pow_right (by decide) tens
      _ = (10 ^ reach value) ^ 93 := by rw [← Nat.pow_mul, Nat.mul_comm]
  exact Nat.lt_of_lt_of_le bits ((Nat.pow_le_pow_iff_left (by decide)).mp powers)

theorem scaled_pos {magnitude : Nat} (nonzero : 0 < magnitude) : 0 < scaled magnitude :=
  scaled_strictMono nonzero

theorem fine_pos {magnitude : Nat} (nonzero : 0 < magnitude) : 0 < fine magnitude :=
  Nat.lt_of_le_of_lt (Nat.zero_le _) (fine_strictMono nonzero)

theorem fine_succ_le {magnitude : Nat} (nonzero : 0 < magnitude) :
    fine (magnitude + 1) ≤ 2 * fine magnitude := by
  have some : 0 < significand magnitude :=
    Nat.pos_of_mul_pos_right (scaled_eq magnitude ▸ scaled_pos nonzero)
  have step : 2 ^ shift magnitude ≤ scaled magnitude := by
    rw [scaled_eq]
    exact Nat.le_mul_of_pos_left _ some
  have scales : scaled (magnitude + 1) ≤ 2 * scaled magnitude := by
    rw [scaled_succ]
    omega
  calc fine (magnitude + 1) ≤ 2 * scaled magnitude * Nat.pow 5 1074 := Nat.mul_le_mul_right _ scales
    _ = 2 * fine magnitude := Nat.mul_assoc ..

theorem pos_of_holds {magnitude : Nat} {value : ℚ} (nonzero : 0 < magnitude)
    (inside : (basin magnitude).Holds value) : 0 < value := by
  have low := inside.low
  have positive : (0 : ℚ) < fine magnitude := by exact_mod_cast fine_pos nonzero
  have least : (0 : ℚ) ≤ fine (magnitude - 1) := Nat.cast_nonneg _
  simp only [basin, Nat.cast_add] at low
  linarith

theorem not_holds_reach {magnitude : Nat} (nonzero : 0 < magnitude) (other : Nat) :
    ¬ (basin magnitude).Holds (other * 10 ^ (reach (fine magnitude) + 1) : Nat) := by
  intro holds
  have far := lt_pow_reach (fine magnitude)
  have next := fine_succ_le nonzero
  have high : 2 * (other * 10 ^ (reach (fine magnitude) + 1)) ≤
      fine magnitude + fine (magnitude + 1) := by exact_mod_cast holds.high
  have some : 0 < other * 10 ^ (reach (fine magnitude) + 1) := by
    exact_mod_cast pos_of_holds nonzero holds
  have grows : 10 ^ reach (fine magnitude) * 10 ≤ other * 10 ^ (reach (fine magnitude) + 1) := by
    rw [← Nat.pow_succ]
    exact Nat.le_mul_of_pos_left _ (Nat.pos_of_mul_pos_right some)
  omega

/-- The only place where `shortest` is unfolded: a search that is not a variable would be run. -/
theorem shortest_of_found {magnitude : Nat} {found : Nat × Nat}
    (search : (basin magnitude).coarsest (fine magnitude) (reach (fine magnitude)) = found) :
    shortest magnitude = ⟨found.1, found.2 - 1074⟩ := by
  rw [shortest, search]

theorem scale_zpow (q : ℚ) (exponent : ℤ) :
    q * 10 ^ exponent * 10 ^ 1074 = q * 10 ^ (exponent + 1074) := by
  have unit : (10 : ℚ) ^ (1074 : ℤ) = 10 ^ 1074 := zpow_ofNat 10 1074
  rw [zpow_add₀ (by decide), unit, mul_assoc]

theorem toRat_shortest {magnitude place : Nat}
    (exponent : (shortest magnitude).place = place - 1074) :
    (shortest magnitude).toRat * 10 ^ 1074 = ((shortest magnitude).digits * 10 ^ place : Nat) := by
  rw [Decimal.toRat, scale_zpow, exponent, sub_add_cancel]
  push_cast
  rfl

section Shortest

variable {magnitude : Nat} (nonzero : 0 < magnitude)

include nonzero

theorem exists_shortest : ∃ place : Nat, (shortest magnitude).place = place - 1074 ∧
    Coarsest (basin magnitude) (shortest magnitude).digits place := by
  have coarsest := coarsest_of_outside (holds_fine nonzero) (reach (fine magnitude))
    (not_holds_reach nonzero)
  obtain ⟨found, search⟩ : ∃ found,
      (basin magnitude).coarsest (fine magnitude) (reach (fine magnitude)) = found := ⟨_, rfl⟩
  rw [search] at coarsest
  rw [shortest_of_found search]
  exact ⟨found.2, rfl, coarsest⟩

theorem digits_mod_ten : (shortest magnitude).digits % 10 ≠ 0 := by
  obtain ⟨place, _, inside, coarser⟩ := exists_shortest nonzero
  intro divides
  apply coarser ((shortest magnitude).digits / 10)
  have whole : (shortest magnitude).digits / 10 * 10 = (shortest magnitude).digits := by omega
  rw [Nat.pow_succ', ← Nat.mul_assoc, whole]
  exact inside

theorem digits_pos : 0 < (shortest magnitude).digits := by
  have last := digits_mod_ten nonzero
  omega

theorem holds_shortest : (basin magnitude).Holds ((shortest magnitude).toRat * 10 ^ 1074) := by
  obtain ⟨place, exponent, inside, _⟩ := exists_shortest nonzero
  rw [toRat_shortest exponent]
  exact inside

theorem digits_lt_of_holds {count width : Nat} {exponent : ℤ}
    (inside : (basin magnitude).Holds (count * 10 ^ exponent * 10 ^ 1074))
    (short : count < 10 ^ width) : (shortest magnitude).digits < 10 ^ width := by
  obtain ⟨place, _, coarsest⟩ := exists_shortest nonzero
  rw [scale_zpow] at inside
  rcases Int.lt_or_le place (exponent + 1074) with coarse | fine
  · obtain ⟨power, same⟩ := Int.eq_ofNat_of_zero_le (show 0 ≤ exponent + 1074 by omega)
    rw [same] at inside coarse
    refine absurd ?_ (coarsest.not_holds (Int.ofNat_lt.mp coarse) count)
    exact_mod_cast inside
  · -- If there were more digits, a power of ten would lie between the two.
    by_contra long
    have below : (count * 10 ^ (exponent + 1074) : ℚ) ≤ (10 ^ width * 10 ^ place : Nat) := by
      have less : (count : ℚ) ≤ 10 ^ width := by exact_mod_cast short.le
      have power : (10 : ℚ) ^ (exponent + 1074) ≤ 10 ^ place := by
        exact_mod_cast zpow_le_zpow_right₀ (show (1 : ℚ) ≤ 10 by decide) fine
      push_cast
      exact mul_le_mul less power (by positivity) (by positivity)
    have above : 10 ^ width * 10 ^ place ≤ (shortest magnitude).digits * 10 ^ place :=
      Nat.mul_le_mul_right _ (Nat.le_of_not_lt long)
    have between := inside.between coarsest.inside below (by exact_mod_cast above)
    rcases Nat.eq_zero_or_pos width with none | some
    · have zero : count = 0 := by
        rw [none] at short
        omega
      rw [zero, Nat.cast_zero, zero_mul] at inside
      exact lt_irrefl 0 (pos_of_holds nonzero inside)
    · rw [← Nat.pow_add, ← Nat.one_mul (10 ^ _)] at between
      exact coarsest.not_holds (by omega) 1 between

theorem pow_le_shortest {power : Nat} (large : 10 ^ power ≤ size magnitude) :
    10 ^ power ≤ (shortest magnitude).toRat := by
  obtain ⟨place, exponent, coarsest⟩ := exists_shortest nonzero
  have unit : (0 : ℚ) < 10 ^ 1074 := by positivity
  have counted : (10 ^ power * 10 ^ 1074 : ℚ) = (1 * 10 ^ (power + 1074) : Nat) := by
    rw [Nat.one_mul, Nat.cast_pow, pow_add, Nat.cast_ofNat]
  by_contra short
  have less := mul_lt_mul_of_pos_right (not_le.mp short) unit
  have coarse : place < power + 1074 := by
    rw [counted, toRat_shortest exponent, Nat.one_mul] at less
    have more := Nat.le_mul_of_pos_left (10 ^ place) (digits_pos nonzero)
    have powers := Nat.lt_of_le_of_lt more (Nat.cast_lt.mp less)
    exact (Nat.pow_lt_pow_iff_right (by decide)).mp powers
  apply coarsest.not_holds coarse 1
  rw [← counted]
  refine (holds_shortest nonzero).between (holds_fine nonzero) less.le ?_
  rw [cast_fine]
  exact mul_le_mul_of_nonneg_right large unit.le

theorem shortest_lt {other : Nat} {q : ℚ} (inside : (basin other).Holds (q * 10 ^ 1074))
    (less : magnitude < other) : (shortest magnitude).toRat < q := by
  by_contra reversed
  have far : q * 10 ^ 1074 ≤ (shortest magnitude).toRat * 10 ^ 1074 :=
    mul_le_mul_of_nonneg_right (not_lt.mp reversed) (by positivity)
  have order := inside.le_of_le (holds_shortest nonzero) far
  omega

end Shortest

end Worksheet.Binary64
