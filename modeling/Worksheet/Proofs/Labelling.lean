import Mathlib.Data.List.Nodup
import Worksheet.Address.Label
import Worksheet.CommandLine.Options

namespace Worksheet

namespace Address

variable {chars number : List Char} {text : String} {address other : Address} {letter digit : Char}
  {col row : Nat}

theorem idxOf?_eq_some_iff_of_nodup {items : List Char} (distinct : items.Nodup) {item : Char}
    {place : Nat} : items.idxOf? item = some place ↔ items[place]? = some item := by
  rw [List.idxOf?_eq_some_iff, List.getElem?_eq_some_iff]
  constructor
  · intro ⟨bound, found, _⟩
    exact ⟨bound, found⟩
  · intro ⟨bound, found⟩
    refine ⟨bound, found, fun before less same => ?_⟩
    have equal := (List.Nodup.getElem_inj_iff distinct).mp (same.trans found.symm)
    omega

theorem letter?_eq_some_iff : letter? col = some letter ↔ columnLetters.idxOf? letter = some col :=
  (idxOf?_eq_some_iff_of_nodup (by decide)).symm

theorem bound_of_letter? (found : letter? col = some letter) : col < cols :=
  (List.getElem?_eq_some_iff.mp found).1

theorem exists_letter (bound : col < cols) : ∃ letter, letter? col = some letter :=
  ⟨_, List.getElem?_eq_getElem bound⟩

theorem idxOf?_rowDigits_iff : rowDigits.idxOf? digit = some row ↔
    row < rows ∧ Nat.toDigits 10 row = [digit] := by
  have digits : ∀ row : Fin rows, rowDigits[row]? = some (row : Nat).digitChar := by decide
  rw [idxOf?_eq_some_iff_of_nodup (by decide)]
  constructor
  · intro found
    have bound : row < rows := (List.getElem?_eq_some_iff.mp found).1
    have same := (digits ⟨row, bound⟩).symm.trans found
    rw [Option.some.injEq] at same
    exact ⟨bound, by rw [Nat.toDigits_of_lt_base bound, same]⟩
  · intro ⟨bound, written⟩
    rw [Nat.toDigits_of_lt_base bound, List.cons.injEq] at written
    exact written.1 ▸ digits ⟨row, bound⟩

theorem toList_text_of_letter (found : letter? address.col = some letter) :
    address.text.toList = letter :: Nat.toDigits 10 address.row := by
  rw [text, found, String.toList_ofList]

theorem ofChars?_eq_some_iff :
    ofChars? chars = some address ↔ address.InBounds ∧ chars = address.text.toList := by
  constructor
  · intro read
    unfold ofChars? at read
    split at read
    · simp only [Option.bind_eq_bind, Option.bind_eq_some_iff, Option.some.injEq] at read
      obtain ⟨col, hasLetter, row, hasDigit, same⟩ := read
      subst same
      have found := letter?_eq_some_iff.mpr hasLetter
      obtain ⟨bound, written⟩ := idxOf?_rowDigits_iff.mp hasDigit
      refine ⟨⟨bound, bound_of_letter? found⟩, ?_⟩
      rw [toList_text_of_letter found, written]
    · cases read
  · intro ⟨inside, written⟩
    obtain ⟨letter, found⟩ := exists_letter inside.2
    have digits := Nat.toDigits_of_lt_base inside.1
    have hasDigit := idxOf?_rowDigits_iff.mpr ⟨inside.1, digits⟩
    rw [written, toList_text_of_letter found, digits]
    simp only [ofChars?, letter?_eq_some_iff.mp found, hasDigit]
    rfl

theorem ofText?_eq_some_iff :
    ofText? text = some address ↔ address.InBounds ∧ text = address.text := by
  rw [ofText?, ofChars?_eq_some_iff, String.toList_inj]

theorem ofFormula?_eq_some_iff :
    ofFormula? text = some address ↔ address.InBounds ∧ text = "=" ++ address.text := by
  have sign : ("=" ++ address.text).toList = '=' :: address.text.toList := by
    rw [String.toList_append]
    rfl
  rw [← String.toList_inj, sign]
  unfold ofFormula?
  split
  · rename_i label chars
    rw [ofChars?_eq_some_iff, chars, List.cons_inj_right]
  · rename_i noSign
    simp only [reduceCtorEq, false_iff, not_and]
    exact fun _ same => noSign _ same

/-- What is written for a place outside the grid is too long for a label, or begins with a number
    sign. -/
theorem inBounds_of_ofText?_text (read : ofText? address.text = some other) :
    address.InBounds := by
  obtain ⟨inside, same⟩ := ofText?_eq_some_iff.mp read
  obtain ⟨letter, found⟩ := exists_letter inside.2
  have chars := congrArg String.toList same
  rw [toList_text_of_letter found, Nat.toDigits_of_lt_base inside.1] at chars
  cases mine : letter? address.col with
  | some _ =>
    rw [toList_text_of_letter mine] at chars
    have single : (Nat.toDigits 10 address.row).length ≤ 1 :=
      Nat.le_of_eq (congrArg List.length (List.tail_eq_of_cons_eq chars))
    exact ⟨(Nat.length_toDigits_le_iff (by decide) (by decide)).mp single, bound_of_letter? mine⟩
  | none =>
    rw [text, mine, String.toList_ofList] at chars
    have sign := List.head_eq_of_cons_eq chars
    subst sign
    exact absurd (List.mem_of_getElem? found) (by decide)

end Address

namespace Label

variable {chars number : List Char} {address : Address} {row : Nat}

theorem row?_eq_some_iff : row? number = some row ↔
    row < rows ∧ Nat.toDigits 10 row = number := by
  unfold row?
  dsimp only
  constructor
  · intro read
    split at read
    · rename_i accepted
      cases read
      exact accepted
    · cases read
  · intro ⟨bound, written⟩
    have same : Nat.ofDigitChars 10 number 0 = row :=
      written ▸ Nat.ofDigitChars_toDigits (by decide) (by decide)
    simp only [same, bound, written, and_self, if_true]

theorem isUpper_of_letter? {col : Nat} {letter : Char} (found : Address.letter? col = some letter) :
    letter.isUpper = true := by
  have upper : ∀ letter ∈ Address.columnLetters, letter.isUpper = true := by
    simp [Address.columnLetters]
  exact upper letter (List.mem_of_getElem? found)

theorem bind_address?_eq_some_iff : (ofChars? chars).bind address? = some address ↔
    address.InBounds ∧ chars = address.text.toList := by
  rw [Option.bind_eq_some_iff]
  constructor
  · intro ⟨label, parts, named⟩
    unfold ofChars? at parts
    split at parts
    · split at parts
      · cases parts
        simp only [address?, Option.bind_eq_bind, Option.bind_eq_some_iff,
          Option.some.injEq] at named
        obtain ⟨col, hasLetter, row, hasRow, same⟩ := named
        subst same
        have found := Address.letter?_eq_some_iff.mpr hasLetter
        obtain ⟨bound, written⟩ := row?_eq_some_iff.mp hasRow
        refine ⟨⟨bound, Address.bound_of_letter? found⟩, ?_⟩
        rw [Address.toList_text_of_letter found, written]
      · cases parts
    · cases parts
  · intro ⟨inside, written⟩
    obtain ⟨letter, found⟩ := Address.exists_letter inside.2
    have digits := Nat.toDigits_of_lt_base inside.1
    have digit : (Nat.digitChar address.row).isDigit = true := by
      rw [Nat.isDigit_digitChar]
      exact decide_eq_true inside.1
    have hasRow := row?_eq_some_iff.mpr ⟨inside.1, digits⟩
    refine ⟨⟨letter, [Nat.digitChar address.row]⟩, ?_, ?_⟩
    · rw [written, Address.toList_text_of_letter found, digits]
      simp [ofChars?, isUpper_of_letter? found, digit]
    · simp [address?, Address.letter?_eq_some_iff.mp found, hasRow]

theorem bind_address?_eq (chars : List Char) :
    (ofChars? chars).bind address? = Address.ofChars? chars := by
  ext address
  rw [bind_address?_eq_some_iff, Address.ofChars?_eq_some_iff]

end Label

namespace Address

structure ReadsWritten (text : String) (address : Address) : Prop where
  label : ofText? text = (Label.ofChars? text.toList).bind Label.address?
  written : ofText? text = some address ↔ address.InBounds ∧ text = address.text
  accepted : CommandLine.addressOf text = .ok address ↔ ofText? text = some address
  refused : ofText? text = none → CommandLine.addressOf text = .error (.invalidLabel text)
  formula : ofFormula text = .ok address ↔ address.InBounds ∧ text = "=" ++ address.text
  blamed : ∀ fault, ofFormula text = .error fault → fault = .badFormula text
  outside : ¬ address.InBounds → ofText? address.text = none

/-- A text is read as an address of the grid exactly if it is what is written for it. -/
theorem reads_exactly_written (text : String) (address : Address) :
    ReadsWritten text address where
  label := (Label.bind_address?_eq text.toList).symm
  written := ofText?_eq_some_iff
  accepted := by
    unfold CommandLine.addressOf
    cases ofText? text <;> simp
  refused := by
    intro unread
    rw [CommandLine.addressOf, unread]
  formula := by rw [ofFormula_eq_ok_iff, ofFormula?_eq_some_iff]
  blamed := by
    intro fault failed
    unfold ofFormula at failed
    split at failed
    · cases failed
    · cases failed
      rfl
  outside := by
    intro outside
    cases read : ofText? address.text with
    | none => rfl
    | some other => exact absurd (inBounds_of_ofText?_text read) outside

end Address

end Worksheet
