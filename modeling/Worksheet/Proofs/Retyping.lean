import Worksheet.Proofs.Displaying
import Worksheet.Proofs.Spelling

namespace Worksheet

theorem Spelling.isDigit_or_mark {spelling : Spelling} {c : Char} (member : c ∈ spelling.chars) :
    c.isDigit = true ∨ c ∈ ['-', '+', '.'] := by
  rcases List.mem_append.mp member with sign | unsigned
  · right
    cases kind : spelling.sign with
    | absent =>
      rw [kind] at sign
      cases sign
    | plus | minus =>
      rw [kind] at sign
      simp [List.mem_singleton.mp sign]
  · rcases List.mem_append.mp unsigned with whole | behind
    · exact .inl (spelling.whole.digital c whole)
    · cases written : spelling.fraction.chars with
      | nil =>
        rw [written] at behind
        cases behind
      | cons first rest =>
        rw [written] at behind
        rcases List.mem_cons.mp behind with mark | digit
        · exact .inr (by simp [mark])
        · exact .inl (spelling.fraction.digital c (written ▸ digit))

theorem Literal.read_of_foreign {text : String} {c : Char} (member : c ∈ text.toList)
    (letter : c.isDigit = false) (mark : c ∉ ['-', '+', '.']) :
    read text = .error (.badValue text) := by
  unfold read
  cases accepted : ofChars? text.toList with
  | none => rfl
  | some literal =>
    obtain ⟨spelling, chars, _⟩ := Spelling.exists_of_ofChars? accepted
    rcases Spelling.isDigit_or_mark (chars ▸ member) with digit | other
    · rw [letter] at digit
      cases digit
    · exact absurd other mark

namespace Numeral

variable {numeral : Numeral}

theorem exists_spelling (positional : numeral.Positional) (fraction : numeral.fraction.chars ≠ []) :
    ∃ spelling : Spelling, numeral.chars = spelling.chars ∧ spelling.Unpadded ∧
      spelling.literal = ⟨numeral.negative, numeral.whole.chars, numeral.fraction.chars⟩ := by
  obtain ⟨unpowered, some, unpadded⟩ := positional
  obtain ⟨sign, signed, negative⟩ : ∃ sign : Sign,
      sign.chars = minus numeral.negative ∧ sign.negative = numeral.negative := by
    cases numeral.negative with
    | true => exact ⟨.minus, rfl, rfl⟩
    | false => exact ⟨.absent, rfl, rfl⟩
  have point : Spelling.point numeral.fraction.chars = '.' :: numeral.fraction.chars := by
    cases written : numeral.fraction.chars with
    | nil => exact absurd written fraction
    | cons => rfl
  refine ⟨⟨sign, numeral.whole, numeral.fraction, some⟩, ?_, ?_, ?_⟩
  · rw [Spelling.chars, signed, point, chars, powerChars, unpowered, Option.elim_none,
      List.append_nil]
  · -- The only numerals that begin with a zero have no other digit in front of the point.
    rintro ⟨rest, written⟩
    have zero := unpadded (written ▸ rfl)
    rw [zero] at written
    cases written
  · exact congrArg (Literal.mk · _ _) negative

theorem ofChars?_chars (positional : numeral.Positional) (fraction : numeral.fraction.chars ≠ []) :
    Literal.ofChars? numeral.chars =
      some ⟨numeral.negative, numeral.whole.chars, numeral.fraction.chars⟩ := by
  obtain ⟨spelling, chars, unpadded, literal⟩ := exists_spelling positional fraction
  rw [chars, Spelling.ofChars?_chars unpadded, literal]

end Numeral

namespace Binary64

theorem value_of_shows {x : Binary64} {numeral : Numeral} (finite : x.Finite)
    (shows : x.Shows numeral) (positional : numeral.Positional) :
    Literal.value ⟨numeral.negative, numeral.whole.chars, numeral.fraction.chars⟩ = x := by
  apply ext_of shows.sign
  apply (nearest_eq_iff (Nat.pow_pos (by decide)) finite).mpr
  have inside := shows.holds
  have unpowered : numeral.exponent = 0 := by
    rw [Numeral.exponent, positional.unpowered]
    rfl
  rw [Numeral.toRat, shows.sign, withSign_withSign, unpowered, zero_sub, zpow_neg, zpow_natCast,
    ← div_eq_mul_inv] at inside
  rw [Nat.cast_pow, Nat.cast_ofNat]
  exact inside

theorem exists_letter {x : Binary64} (special : ¬ (x.magnitude = 0 ∨ x.Middling)) :
    ∃ c ∈ x.text.toList, c.isDigit = false ∧ c ∉ ['-', '+', '.'] := by
  by_cases number : x.IsNaN
  · refine ⟨'N', ?_, rfl, by decide⟩
    rw [text, if_pos number]
    decide
  · by_cases finite : x.Finite
    · obtain ⟨numeral, shows⟩ := exists_shows finite
      obtain ⟨power, written, _⟩ := (shows.scientific special).power
      refine ⟨'E', ?_, rfl, by decide⟩
      rw [shows.text, String.toList_ofList, Numeral.chars, Numeral.powerChars, written]
      simp [Power.chars]
    · refine ⟨'I', ?_, rfl, by decide⟩
      rw [(text_of_infinite number finite).2, String.toList_ofList]
      exact List.mem_append_right _ List.mem_cons_self

/-- What is displayed without a power of ten can be typed in again. -/
theorem read_text (x : Binary64) :
    (x.magnitude = 0 ∨ x.Middling → Literal.read x.text = .ok x) ∧
      (¬ (x.magnitude = 0 ∨ x.Middling) → Literal.read x.text = .error (.badValue x.text)) := by
  constructor
  · intro plain
    have finite : x.Finite := by
      rcases plain with zero | middling
      · rw [Finite, zero]
        decide
      · exact middling.finite
    obtain ⟨numeral, shows⟩ := exists_shows finite
    have positional := shows.positional plain
    rw [Literal.read, shows.text, String.toList_ofList,
      Numeral.ofChars?_chars positional shows.spells.nonempty]
    exact congrArg _ (value_of_shows finite shows positional)
  · intro special
    obtain ⟨c, member, letter, mark⟩ := exists_letter special
    exact Literal.read_of_foreign member letter mark

end Binary64

end Worksheet
