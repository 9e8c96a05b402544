import Worksheet.Binary64.Conversion
import Worksheet.Literal.Spelling
import Worksheet.Proofs.Numeral

namespace Worksheet

theorem toLower_of_isDigit {c : Char} (digit : c.isDigit = true) : c.toLower = c := by
  have small : c.toNat ≤ 57 := (Char.isDigit_iff_toNat.mp digit).2
  unfold Char.toLower
  rw [dif_neg]
  intro ⟨large, _⟩
  have least : 65 ≤ c.toNat := large
  omega

theorem Sign.chars_injective : Function.Injective Sign.chars := by
  intro first second same
  cases first <;> cases second <;> simp [Sign.chars] at same ⊢

namespace Literal

variable {chars digits rest : List Char} {c : Char}

theorem splitSign_cons (sign : Sign) (first : c.isDigit = true) :
    splitSign (sign.chars ++ c :: rest) = (sign.negative, c :: rest) := by
  cases sign with
  | plus | minus => rfl
  | absent =>
    change splitSign (c :: rest) = (false, c :: rest)
    unfold splitSign
    split
    · rename_i same
      cases same
      cases first
    · rename_i same
      cases same
      cases first
    · rfl

theorem exists_sign (chars : List Char) : ∃ sign : Sign,
    chars = sign.chars ++ (splitSign chars).2 ∧ (splitSign chars).1 = sign.negative := by
  unfold splitSign
  split
  · exact ⟨.minus, rfl, rfl⟩
  · exact ⟨.plus, rfl, rfl⟩
  · exact ⟨.absent, rfl, rfl⟩

theorem fraction?_point (digital : ∀ c ∈ digits, c.isDigit = true) :
    fraction? (Spelling.point digits) = some digits := by
  cases digits with
  | nil => rfl
  | cons c rest =>
    have all : (c :: rest).all Char.isDigit = true := List.all_eq_true.mpr digital
    simp [Spelling.point, fraction?, all]

theorem point_of_fraction? (read : fraction? chars = some digits) :
    chars = Spelling.point digits ∧ ∀ c ∈ digits, c.isDigit = true := by
  unfold fraction? at read
  split at read
  · cases read
    exact ⟨rfl, fun _ member => absurd member List.not_mem_nil⟩
  · split at read
    · cases read
    · rename_i digital
      simp only [Bool.or_eq_true, Bool.not_eq_true', not_or, Bool.not_eq_false] at digital
      obtain ⟨some, digital⟩ := digital
      cases read
      refine ⟨?_, List.all_eq_true.mp digital⟩
      cases digits with
      | nil => exact absurd rfl some
      | cons => rfl
  · cases read

end Literal

namespace Spelling

variable {spelling : Spelling} {chars : List Char} {literal : Literal}

theorem stops_point (digits : List Char) : Stops (point digits) := by
  cases digits with
  | nil =>
    intro _ first
    cases first
  | cons => exact stops_cons rfl _

theorem point_injective : Function.Injective point := by
  intro first second same
  cases first <;> cases second
  · rfl
  · cases same
  · cases same
  · exact (List.cons_inj_right _).mp same

theorem splitSign_chars (spelling : Spelling) : Literal.splitSign spelling.chars =
    (spelling.sign.negative, spelling.whole.chars ++ point spelling.fraction.chars) := by
  unfold chars
  cases written : spelling.whole.chars with
  | nil => exact absurd written spelling.nonempty
  | cons c rest =>
    have digit := spelling.whole.digital c (written ▸ List.mem_cons_self)
    exact Literal.splitSign_cons spelling.sign digit

theorem ofChars?_chars (unpadded : spelling.Unpadded) :
    Literal.ofChars? spelling.chars = some spelling.literal := by
  have stops := stops_point spelling.fraction.chars
  have fraction := Literal.fraction?_point spelling.fraction.digital
  have single : ['0', '0'].isPrefixOf spelling.whole.chars = false := by
    rw [← Bool.not_eq_true, List.isPrefixOf_iff_prefix]
    exact unpadded
  unfold Literal.ofChars?
  rw [spelling.splitSign_chars]
  dsimp only
  rw [spelling.whole.takeWhile_append stops, spelling.whole.dropWhile_append stops, single, fraction]
  simp [spelling.nonempty, literal]

theorem exists_of_ofChars? (read : Literal.ofChars? chars = some literal) :
    ∃ spelling : Spelling, chars = spelling.chars ∧ spelling.Unpadded ∧
      spelling.literal = literal := by
  obtain ⟨sign, signed, negative⟩ := Literal.exists_sign chars
  unfold Literal.ofChars? at read
  dsimp only at read
  split at read
  · cases read
  · rename_i accepted
    simp only [Bool.or_eq_true, List.isEmpty_iff, not_or, List.isPrefixOf_iff_prefix] at accepted
    obtain ⟨some, unpadded⟩ := accepted
    obtain ⟨digits, fraction, same⟩ := Option.map_eq_some_iff.mp read
    obtain ⟨point, digital⟩ := Literal.point_of_fraction? fraction
    refine ⟨⟨sign, ⟨_, fun c => List.mem_takeWhile_imp⟩, ⟨digits, digital⟩, some⟩, ?_, unpadded, ?_⟩
    · rw [Spelling.chars, ← point, List.takeWhile_append_dropWhile]
      exact signed
    · rw [← same, negative]
      rfl

theorem chars_injective : Function.Injective Spelling.chars := by
  intro first second same
  have sides := congrArg Literal.splitSign same
  rw [splitSign_chars, splitSign_chars, Prod.mk.injEq] at sides
  obtain ⟨whole, point⟩ := Digits.append_inj (stops_point _) (stops_point _) sides.2
  have fraction := Digits.ext (point_injective point)
  unfold Spelling.chars at same
  rw [whole, fraction, List.append_cancel_right_eq] at same
  exact Spelling.ext (Sign.chars_injective same) whole fraction

theorem not_isNaN_value (spelling : Spelling) : ¬ spelling.literal.value.IsNaN :=
  Nat.not_lt.mpr (Binary64.nearest_le_infinite _ _)

end Spelling

namespace Binary64

theorem splitDigits_append (digits : Digits) {rest : List Char} (stops : Stops rest) :
    splitDigits (digits.chars ++ rest) = (digits.chars, rest) := by
  rw [splitDigits, digits.takeWhile_append stops, digits.dropWhile_append stops]

theorem splitFraction_point (digits : Digits) :
    splitFraction (Spelling.point digits.chars) = (digits.chars, []) := by
  have split : splitDigits (digits.chars ++ []) = (digits.chars, []) :=
    splitDigits_append digits (Spelling.stops_point [])
  rw [List.append_nil] at split
  cases written : digits.chars with
  | nil => rfl
  | cons c rest =>
    rw [written] at split
    exact split

theorem ofDecimal_of_places (negative : Bool) (digits places : Nat) :
    ofDecimal negative ⟨digits, 0 - places⟩ = ofRatio negative digits (Nat.pow 10 places) := by
  unfold ofDecimal
  dsimp only
  split
  · have size : (0 - (places : Int)).natAbs = places := by omega
    rw [size]
  · have none : places = 0 := by omega
    subst none
    exact congrArg (ofRatio negative · 1) (Nat.mul_one digits)

theorem map_toLower_ne {chars word : List Char} {c letter : Char} (first : chars.head? = some c)
    (digit : c.isDigit = true) (other : letter.isDigit = false) :
    chars.map Char.toLower ≠ letter :: word := by
  intro same
  have head := congrArg List.head? same
  rw [List.head?_map, first, Option.map_some, toLower_of_isDigit digit, List.head?_cons,
    Option.some.injEq] at head
  subst head
  rw [digit] at other
  cases other

theorem number?_spelling (spelling : Spelling) :
    number? spelling.sign.negative
      (spelling.whole.chars ++ Spelling.point spelling.fraction.chars) =
        some spelling.literal.value := by
  unfold number?
  rw [splitDigits_append spelling.whole (Spelling.stops_point _)]
  dsimp only
  rw [splitFraction_point]
  simp only [List.isEmpty_iff, spelling.nonempty, Bool.and_eq_true, false_and, if_false, exponent?,
    Option.map_some, ofDecimal_of_places]
  rfl

theorem ofChars?_spelling (spelling : Spelling) :
    ofChars? spelling.chars = some spelling.literal.value := by
  obtain ⟨c, first⟩ : ∃ c, spelling.whole.chars.head? = some c :=
    ⟨_, List.head?_eq_some_head spelling.nonempty⟩
  have front : (spelling.whole.chars ++ Spelling.point spelling.fraction.chars).head? = some c := by
    rw [List.head?_append_of_ne_nil _ spelling.nonempty, first]
  have digit := spelling.whole.head_isDigit first
  unfold ofChars?
  rw [spelling.splitSign_chars]
  dsimp only
  rw [if_neg (not_or.mpr ⟨map_toLower_ne front digit rfl, map_toLower_ne front digit rfl⟩),
    if_neg (map_toLower_ne front digit rfl), number?_spelling]

end Binary64

namespace Literal

variable {text : String} {value : Binary64}

theorem read_eq_ok_iff : read text = .ok value ↔ ∃ spelling : Spelling,
    text.toList = spelling.chars ∧ spelling.Unpadded ∧ spelling.literal.value = value := by
  unfold read
  constructor
  · intro accepted
    split at accepted
    · rename_i literal found
      obtain ⟨spelling, chars, unpadded, same⟩ := Spelling.exists_of_ofChars? found
      exact ⟨spelling, chars, unpadded, same ▸ Except.ok.inj accepted⟩
    · cases accepted
  · intro ⟨spelling, chars, unpadded, same⟩
    rw [chars, Spelling.ofChars?_chars unpadded]
    exact congrArg _ same

theorem exists_read_iff_admits : (∃ value, read text = .ok value) ↔ Admits text := by
  simp only [read_eq_ok_iff, Admits]
  constructor
  · intro ⟨_, spelling, chars, unpadded, _⟩
    exact ⟨spelling, chars, unpadded⟩
  · intro ⟨spelling, chars, unpadded⟩
    exact ⟨_, spelling, chars, unpadded, rfl⟩

/-- Only what is spelled as a number, without two zeros in front, is read as one. A conversion that
    knows other notations as well takes all that is spelled as a number, and for one. -/
theorem read_exactly_admitted (text : String) :
    ((∃ value, read text = .ok value) ↔ Admits text) ∧
      (¬ Admits text → read text = .error (.badValue text)) ∧
      ∀ spelling : Spelling, text.toList = spelling.chars →
        ∃ value, Binary64.ofChars? text.toList = some value ∧ ¬ value.IsNaN ∧
          (spelling.Unpadded → read text = .ok value) := by
  refine ⟨exists_read_iff_admits, ?_, ?_⟩
  · intro refused
    unfold read
    cases found : ofChars? text.toList with
    | none => rfl
    | some literal =>
      obtain ⟨spelling, chars, unpadded, _⟩ := Spelling.exists_of_ofChars? found
      exact absurd ⟨spelling, chars, unpadded⟩ refused
  · intro spelling chars
    refine ⟨spelling.literal.value, ?_, spelling.not_isNaN_value, ?_⟩
    · rw [chars, Binary64.ofChars?_spelling]
    · intro unpadded
      exact read_eq_ok_iff.mpr ⟨spelling, chars, unpadded, rfl⟩

end Literal

end Worksheet
