import Mathlib.Algebra.Order.Field.Power
import Worksheet.Binary64.Numeral
import Worksheet.Binary64.Text
import Worksheet.Literal

namespace Worksheet

section Digits

theorem toDigits_head {number : Nat} (positive : 0 < number) :
    (Nat.toDigits 10 number).head? ≠ some '0' := by
  induction number using Nat.strongRecOn with
  | _ number ih =>
    rw [Nat.toDigits_eq_if (by decide)]
    split
    · simpa using Nat.pos_iff_ne_zero.mp positive
    · have first := ih (number / 10) (by omega) (by omega)
      have some := Nat.toDigits_ne_nil (b := 10) (n := number / 10)
      rw [List.head?_append_of_ne_nil _ some]
      exact first

theorem toDigits_last {number : Nat} (last : number % 10 ≠ 0) :
    (Nat.toDigits 10 number).getLast? ≠ some '0' := by
  rw [Nat.toDigits_eq_if (by decide)]
  split
  · have same : number % 10 = number := by omega
    simpa [same] using last
  · simpa using last

theorem ofDigitChars_padded (digits : List Char) (before after : Nat) :
    Nat.ofDigitChars 10 (List.replicate before '0' ++ digits ++ List.replicate after '0') 0 =
      Nat.ofDigitChars 10 digits 0 * 10 ^ after := by
  rw [Nat.ofDigitChars_append, Nat.ofDigitChars_append, Nat.ofDigitChars_replicate_zero,
    Nat.ofDigitChars_replicate_zero, Nat.mul_zero, Nat.mul_comm]

theorem ofDigitChars_lt {chars : List Char} (digital : ∀ c ∈ chars, c.isDigit = true) :
    Nat.ofDigitChars 10 chars 0 < 10 ^ chars.length := by
  induction chars with
  | nil => decide
  | cons c rest ih =>
    have less := ih fun other member => digital other (List.mem_cons_of_mem _ member)
    have digit : c.toNat ≤ 57 := (Char.isDigit_iff_toNat.mp (digital c List.mem_cons_self)).2
    have first : c.toNat - '0'.toNat ≤ 9 := by
      have zero : '0'.toNat = 48 := rfl
      omega
    rw [Nat.ofDigitChars_cons, Nat.ofDigitChars_eq_ofDigitChars_zero, List.length_cons,
      Nat.pow_succ, Nat.mul_zero, Nat.zero_add]
    have front := Nat.mul_le_mul_left (10 ^ rest.length) first
    omega

theorem exists_replicate {chars : List Char} (zero : ∀ c ∈ chars, (c == '0') = true) :
    ∃ count, chars = List.replicate count '0' :=
  ⟨chars.length, List.eq_replicate_of_mem fun c member => eq_of_beq (zero c member)⟩

theorem exists_trim (chars : List Char) : ∃ before after,
    chars = List.replicate before '0' ++ trim chars ++ List.replicate after '0' := by
  obtain ⟨before, front⟩ : ∃ count, chars.takeWhile (· == '0') = List.replicate count '0' :=
    exists_replicate fun _ member => List.mem_takeWhile_imp (p := (· == '0')) member
  obtain ⟨after, back⟩ : ∃ count, (chars.dropWhile (· == '0')).rtakeWhile (· == '0') =
      List.replicate count '0' :=
    exists_replicate fun _ member => List.mem_rtakeWhile_imp (p := (· == '0')) member
  refine ⟨before, after, ?_⟩
  rw [← front, ← back, trim, List.append_assoc, List.rdropWhile_append_rtakeWhile,
    List.takeWhile_append_dropWhile]

theorem trim_length_le {digits : List Char} (first : digits.head? ≠ some '0') (some : digits ≠ [])
    (before after : Nat) :
    (trim (List.replicate before '0' ++ digits ++ List.replicate after '0')).length ≤
      digits.length := by
  have front : ∀ rest, (List.replicate before '0' ++ (digits ++ rest)).dropWhile (· == '0') =
      digits ++ rest := by
    intro rest
    rw [List.dropWhile_append_of_pos (by simp)]
    cases digits with
    | nil => exact absurd rfl some
    | cons c _ => simpa using first
  rw [trim, List.append_assoc, front]
  induction after with
  | zero =>
    rw [List.replicate_zero, List.append_nil]
    exact (List.rdropWhile_prefix _ digits).length_le
  | succ after ih =>
    rw [List.replicate_succ', ← List.append_assoc, List.rdropWhile_concat_pos _ _ _ rfl]
    exact ih

end Digits

theorem minus_append_inj {first second : Bool} {left right : List Char}
    (unsigned : left.head? ≠ some '-') (unsigned' : right.head? ≠ some '-')
    (same : minus first ++ left = minus second ++ right) : first = second ∧ left = right := by
  cases first <;> cases second
  · exact ⟨rfl, same⟩
  · exact absurd (congrArg List.head? same) unsigned
  · exact absurd (congrArg List.head? same).symm unsigned'
  · exact ⟨rfl, List.cons_inj_right _ |>.mp same⟩

def Stops (chars : List Char) : Prop := ∀ c, chars.head? = some c → c.isDigit = false

theorem stops_cons {c : Char} (other : c.isDigit = false) (rest : List Char) :
    Stops (c :: rest) := by
  intro first same
  cases same
  exact other

namespace Digits

variable {rest : List Char}

theorem takeWhile_append (digits : Digits) (stops : Stops rest) :
    (digits.chars ++ rest).takeWhile Char.isDigit = digits.chars := by
  rw [List.takeWhile_append_of_pos digits.digital]
  cases rest with
  | nil => simp
  | cons c _ => simp [stops c rfl]

theorem dropWhile_append (digits : Digits) (stops : Stops rest) :
    (digits.chars ++ rest).dropWhile Char.isDigit = rest := by
  rw [List.dropWhile_append_of_pos digits.digital]
  cases rest with
  | nil => rfl
  | cons c _ => simp [stops c rfl]

theorem append_inj {first second : Digits} {left right : List Char} (stops : Stops left)
    (stops' : Stops right) (same : first.chars ++ left = second.chars ++ right) :
    first = second ∧ left = right := by
  have digits := first.takeWhile_append stops
  have others := first.dropWhile_append stops
  rw [same, second.takeWhile_append stops'] at digits
  rw [same, second.dropWhile_append stops'] at others
  exact ⟨Digits.ext digits.symm, others.symm⟩

theorem head_isDigit {c : Char} (digits : Digits) (first : digits.chars.head? = some c) :
    c.isDigit = true :=
  digits.digital c (List.mem_of_head? first)

theorem head_ne_minus (digits : Digits) : digits.chars.head? ≠ some '-' :=
  fun first => absurd (digits.head_isDigit first) (by decide)

end Digits

theorem Power.chars_injective : Function.Injective Power.chars := by
  intro first second same
  obtain ⟨sign, digits⟩ := minus_append_inj first.digits.head_ne_minus second.digits.head_ne_minus
    ((List.cons_inj_right _).mp same)
  cases first
  cases second
  simp only [mk.injEq]
  exact ⟨sign, Digits.ext digits⟩

theorem Power.elim_chars_injective :
    Function.Injective fun power : Option Power => power.elim [] Power.chars := by
  intro first second same
  cases first with
  | none =>
    cases second with
    | none => rfl
    | some _ => cases same
  | some power =>
    cases second with
    | none => cases same
    | some other => exact congrArg _ (Power.chars_injective same)

namespace Numeral

theorem exists_count (numeral : Numeral) : ∃ (count : Nat) (exponent : Int),
    numeral.toRat = Binary64.withSign numeral.negative (count * 10 ^ exponent) ∧
      count < 10 ^ numeral.significant := by
  obtain ⟨before, after, padded⟩ := exists_trim numeral.digits
  have digital : ∀ c ∈ trim numeral.digits, c.isDigit = true := by
    intro c member
    have inside : c ∈ numeral.digits := by
      rw [padded]
      exact List.mem_append_left _ (List.mem_append_right _ member)
    exact (List.mem_append.mp inside).elim (numeral.whole.digital c) (numeral.fraction.digital c)
  refine ⟨Nat.ofDigitChars 10 (trim numeral.digits) 0,
    after + (numeral.exponent - numeral.fraction.chars.length), ?_, ofDigitChars_lt digital⟩
  have value := ofDigitChars_padded (trim numeral.digits) before after
  rw [← padded] at value
  rw [toRat, value, zpow_add₀ (by decide)]
  push_cast
  rw [mul_assoc, zpow_natCast]

theorem head_unsigned (numeral : Numeral) (rest : List Char) :
    (numeral.whole.chars ++ '.' :: rest).head? ≠ some '-' := by
  have first := numeral.whole.head_ne_minus
  cases written : numeral.whole.chars with
  | nil => simp
  | cons c _ =>
    rw [written] at first
    exact first

theorem stops_powerChars (numeral : Numeral) : Stops numeral.powerChars := by
  unfold powerChars
  cases numeral.power with
  | none =>
    intro _ first
    cases first
  | some power => exact stops_cons rfl _

theorem isDigit_or_mark {numeral : Numeral} {c : Char} (member : c ∈ numeral.chars) :
    c.isDigit = true ∨ c ∈ ['-', '.', 'E'] := by
  have mark : ∀ negative, c ∈ minus negative → c ∈ ['-', '.', 'E'] := by
    intro negative member
    cases negative with
    | false => cases member
    | true => exact List.mem_append_left _ member
  unfold chars powerChars at member
  simp only [List.mem_append, List.mem_cons] at member
  rcases member with sign | whole | point | fraction | power
  · exact .inr (mark _ sign)
  · exact .inl (numeral.whole.digital c whole)
  · exact .inr (by simp [point])
  · exact .inl (numeral.fraction.digital c fraction)
  · cases written : numeral.power with
    | none =>
      rw [written] at power
      cases power
    | some other =>
      simp only [written, Option.elim_some, Power.chars, List.mem_cons, List.mem_append] at power
      rcases power with letter | sign | digit
      · exact .inr (by simp [letter])
      · exact .inr (mark _ sign)
      · exact .inl (other.digits.digital c digit)

theorem chars_injective : Function.Injective chars := by
  intro first second same
  obtain ⟨sign, unsigned⟩ :=
    minus_append_inj (head_unsigned first _) (head_unsigned second _) same
  obtain ⟨whole, rest⟩ := Digits.append_inj (stops_cons rfl _) (stops_cons rfl _) unsigned
  obtain ⟨fraction, power⟩ := Digits.append_inj first.stops_powerChars second.stops_powerChars
    ((List.cons_inj_right _).mp rest)
  cases first
  cases second
  simp only [mk.injEq]
  exact ⟨sign, whole, fraction, Power.elim_chars_injective power⟩

end Numeral

/-- The two parts around a point that hold the digits of a decimal, maybe with zeros in front of
    them and behind them. -/
structure Spells (whole fraction : List Char) (exponent : Int) (decimal : Decimal) : Prop where
  nonempty : fraction ≠ []
  trimmed : fraction.getLast? = some '0' → fraction = ['0']
  padded : ∃ before after : Nat, whole ++ fraction = List.replicate before '0' ++
    Nat.toDigits 10 decimal.digits ++ List.replicate after '0' ∧
      exponent - fraction.length = decimal.place - after

def Decimal.exponent (decimal : Decimal) : Int :=
  decimal.place + (Nat.toDigits 10 decimal.digits).length - 1

def Power.ofInt (exponent : Int) : Power :=
  ⟨decide (exponent < 0), Digits.ofNat exponent.natAbs⟩

theorem Power.exponent_ofInt (exponent : Int) : (ofInt exponent).exponent = exponent := by
  have value : (Digits.ofNat exponent.natAbs).value = exponent.natAbs :=
    Nat.ofDigitChars_ten_toDigits
  simp only [Power.exponent, ofInt, value, decide_eq_true_eq]
  split <;> omega

theorem Power.chars_ofInt (exponent : Int) : (ofInt exponent).chars = 'E' :: signed exponent := by
  simp only [Power.chars, ofInt, minus, signed, decide_eq_true_eq]
  rfl

namespace Numeral

def Spells (numeral : Numeral) (decimal : Decimal) : Prop :=
  Worksheet.Spells numeral.whole.chars numeral.fraction.chars numeral.exponent decimal

variable {numeral : Numeral} {decimal : Decimal}

theorem Spells.toRat_eq (spells : numeral.Spells decimal) :
    numeral.toRat = Binary64.withSign numeral.negative decimal.toRat := by
  obtain ⟨before, after, digits, place⟩ := spells.padded
  rw [toRat, Numeral.digits, digits, ofDigitChars_padded, Nat.ofDigitChars_ten_toDigits, place,
    Decimal.toRat, Nat.cast_mul, Nat.cast_pow, Nat.cast_ofNat, ← zpow_natCast, mul_assoc,
    ← zpow_add₀ (by decide), add_sub_cancel]

theorem Spells.significant_le (spells : numeral.Spells decimal) (positive : 0 < decimal.digits) :
    numeral.significant ≤ (Nat.toDigits 10 decimal.digits).length := by
  obtain ⟨before, after, digits, _⟩ := spells.padded
  rw [significant, Numeral.digits, digits]
  exact trim_length_le (toDigits_head positive) Nat.toDigits_ne_nil before after

end Numeral

section Written

variable {whole fraction : List Char} {decimal : Decimal}

theorem Spells.digital {exponent : Int} (spells : Spells whole fraction exponent decimal) :
    ∀ c ∈ whole ++ fraction, c.isDigit = true := by
  intro c member
  obtain ⟨before, after, padded, _⟩ := spells.padded
  have zero : '0'.isDigit = true := rfl
  rw [padded, List.mem_append, List.mem_append, List.mem_replicate, List.mem_replicate] at member
  rcases member with (⟨_, same⟩ | inner) | ⟨_, same⟩
  · exact same ▸ zero
  · exact (Digits.ofNat decimal.digits).digital c inner
  · exact same ▸ zero

theorem exists_numeral (negative : Bool) (power : Option Power)
    (spells : Spells whole fraction (power.elim 0 Power.exponent) decimal) :
    ∃ numeral : Numeral, numeral.negative = negative ∧ numeral.whole.chars = whole ∧
      numeral.fraction.chars = fraction ∧ numeral.power = power :=
  ⟨⟨negative, ⟨whole, fun c member => spells.digital c (List.mem_append_left _ member)⟩,
    ⟨fraction, fun c member => spells.digital c (List.mem_append_right _ member)⟩, power⟩,
    rfl, rfl, rfl, rfl⟩

theorem exists_unpowered (negative : Bool) (spells : Spells whole fraction 0 decimal)
    (some : whole ≠ []) (unpadded : whole.head? = .some '0' → whole = ['0']) :
    ∃ numeral : Numeral, numeral.chars = minus negative ++ (whole ++ '.' :: fraction) ∧
      numeral.negative = negative ∧ numeral.Positional ∧ numeral.Spells decimal := by
  obtain ⟨numeral, rfl, rfl, rfl, unpowered⟩ := exists_numeral negative none spells
  refine ⟨numeral, ?_, rfl, ⟨unpowered, some, unpadded⟩, ?_⟩
  · rw [Numeral.chars, Numeral.powerChars, unpowered, Option.elim_none, List.append_nil]
  · rw [Numeral.Spells, Numeral.exponent, unpowered]
    exact spells

theorem exists_zero (negative : Bool) : ∃ numeral : Numeral,
    numeral.chars = minus negative ++ "0.0".toList ∧ numeral.negative = negative ∧
      numeral.Positional ∧ numeral.Spells ⟨0, 0⟩ := by
  have spells : Spells ['0'] ['0'] 0 ⟨0, 0⟩ :=
    ⟨List.cons_ne_nil _ _, fun _ => rfl, 0, 1, rfl, rfl⟩
  exact exists_unpowered negative spells (List.cons_ne_nil _ _) fun _ => rfl

theorem pointed_parts {digits : List Char} (places : Nat) (first : digits.head? ≠ some '0') :
    ∃ whole fraction, pointed digits places = whole ++ '.' :: fraction ∧
      (∃ zeros, whole ++ fraction = List.replicate zeros '0' ++ digits) ∧
        fraction.length = places ∧ whole ≠ [] ∧ (whole.head? = some '0' → whole = ['0']) := by
  let zeros := places + 1 - digits.length
  let padded := List.replicate zeros '0' ++ digits
  have length : padded.length = zeros + digits.length := by simp [padded]
  refine ⟨padded.take (padded.length - places), padded.drop (padded.length - places), rfl,
    ⟨zeros, List.take_append_drop _ _⟩, ?_, ?_, ?_⟩
  · rw [List.length_drop]
    omega
  · intro none
    have short := congrArg List.length none
    rw [List.length_take, List.length_nil] at short
    omega
  · rcases Nat.eq_zero_or_pos zeros with bare | some
    · intro zero
      rw [List.head?_take, if_neg (by omega)] at zero
      simp [padded, bare, first] at zero
    · intro _
      have single : padded.length - places = 1 := by omega
      obtain ⟨more, filled⟩ : ∃ more, zeros = more + 1 := ⟨zeros - 1, by omega⟩
      rw [single]
      simp [padded, filled, List.replicate_succ]

section Last

variable (last : decimal.digits % 10 ≠ 0)

include last

theorem positional_parts : ∃ whole fraction, decimal.positional = whole ++ '.' :: fraction ∧
    whole ≠ [] ∧ (whole.head? = some '0' → whole = ['0']) ∧ Spells whole fraction 0 decimal := by
  have first := toDigits_head (show 0 < decimal.digits by omega)
  unfold Decimal.positional
  dsimp only
  split
  · rename_i fractional
    obtain ⟨whole, fraction, written, ⟨zeros, padded⟩, places, some, unpadded⟩ :=
      pointed_parts decimal.place.natAbs first
    have nonempty : fraction ≠ [] := by
      intro none
      rw [none, List.length_nil] at places
      omega
    have ends : fraction.getLast? ≠ .some '0' := by
      rw [← List.getLast?_append_of_ne_nil whole nonempty, padded,
        List.getLast?_append_of_ne_nil _ Nat.toDigits_ne_nil]
      exact toDigits_last last
    refine ⟨whole, fraction, written, some, unpadded, nonempty, fun zero => absurd zero ends,
      zeros, 0, ?_, by omega⟩
    rw [padded, List.replicate_zero, List.append_nil]
  · rename_i whole
    refine ⟨Nat.toDigits 10 decimal.digits ++ List.replicate decimal.place.toNat '0', ['0'], rfl,
      ?_, ?_, List.cons_ne_nil _ _, fun _ => rfl, 0, decimal.place.toNat + 1, ?_, ?_⟩
    · exact List.append_ne_nil_of_left_ne_nil Nat.toDigits_ne_nil _
    · intro zero
      rw [List.head?_append_of_ne_nil _ Nat.toDigits_ne_nil] at zero
      exact absurd zero first
    · simp [List.replicate_succ']
    · rw [List.length_singleton]
      omega

theorem scientific_parts : ∃ first fraction,
    decimal.scientific = first :: '.' :: fraction ++ 'E' :: signed decimal.exponent ∧
      first ≠ '0' ∧ Spells [first] fraction decimal.exponent decimal := by
  have front := toDigits_head (show 0 < decimal.digits by omega)
  have ends := toDigits_last last
  unfold Decimal.scientific Decimal.exponent
  dsimp only
  cases written : Nat.toDigits 10 decimal.digits with
  | nil => exact absurd written Nat.toDigits_ne_nil
  | cons first rest =>
    rw [written] at front ends
    have nonzero : first ≠ '0' := fun zero => front (congrArg some zero)
    have exponent : decimal.place + ((first :: rest).length : Nat) - 1 =
        decimal.place + rest.length := by
      rw [List.length_cons]
      omega
    rw [exponent]
    cases rest with
    | nil =>
      refine ⟨first, ['0'], rfl, nonzero, List.cons_ne_nil _ _, fun _ => rfl, 0, 1, ?_, ?_⟩
      · rw [written]
        rfl
      · rw [List.length_nil, List.length_singleton, Nat.cast_zero, add_zero]
    | cons second rest =>
      have unpadded : (second :: rest).getLast? ≠ some '0' := by
        rwa [List.getLast?_cons_cons] at ends
      refine ⟨first, second :: rest, rfl, nonzero, List.cons_ne_nil _ _,
        fun zero => absurd zero unpadded, 0, 0, ?_, ?_⟩
      · simp [written]
      · rw [add_sub_cancel_right, Nat.cast_zero, sub_zero]

variable (negative : Bool)

theorem exists_positional : ∃ numeral : Numeral,
    numeral.chars = minus negative ++ decimal.positional ∧ numeral.negative = negative ∧
      numeral.Positional ∧ numeral.Spells decimal := by
  obtain ⟨whole, fraction, written, some, unpadded, spells⟩ := positional_parts last
  rw [written]
  exact exists_unpowered negative spells some unpadded

theorem exists_scientific (extreme : 7 ≤ decimal.exponent ∨ decimal.exponent ≤ -4) :
    ∃ numeral : Numeral, numeral.chars = minus negative ++ decimal.scientific ∧
      numeral.negative = negative ∧ numeral.Scientific ∧ numeral.Spells decimal := by
  obtain ⟨first, fraction, written, nonzero, spells⟩ := scientific_parts last
  generalize decimal.exponent = exponent at *
  rw [← Power.exponent_ofInt exponent] at spells
  obtain ⟨numeral, rfl, front, rfl, power⟩ :=
    exists_numeral negative (some (.ofInt exponent)) spells
  have same : numeral.exponent = exponent := by
    rw [Numeral.exponent, power]
    exact Power.exponent_ofInt exponent
  have unpadded : (Nat.toDigits 10 exponent.natAbs).head? ≠ some '0' := toDigits_head (by omega)
  refine ⟨numeral, ?_, rfl, ⟨⟨first, front, nonzero⟩, ⟨_, power, Nat.toDigits_ne_nil, unpadded⟩,
    same ▸ extreme⟩, ?_⟩
  · rw [written, Numeral.chars, Numeral.powerChars, power, front, Option.elim_some,
      Power.chars_ofInt]
    rfl
  · rw [Numeral.Spells, front, same, ← Power.exponent_ofInt exponent]
    exact spells

end Last

end Written

end Worksheet
