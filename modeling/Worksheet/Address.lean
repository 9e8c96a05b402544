import Worksheet.Fault
import Worksheet.Slots

namespace Worksheet

structure Address where
  col : Nat
  row : Nat
deriving DecidableEq

namespace Address

def InBounds (address : Address) : Prop := address.row < rows ∧ address.col < cols

instance (address : Address) : Decidable address.InBounds :=
  inferInstanceAs (Decidable (_ ∧ _))

def ofSlot (slot : Slot) : Address := ⟨slot.val % cols, slot.val / cols⟩

def slot? (address : Address) : Option Slot :=
  if inside : address.InBounds then
    some ⟨address.row * cols + address.col, by
      obtain ⟨row, col⟩ := inside
      simp only [rows, cols] at *
      omega⟩
  else none

theorem ofSlot_inBounds (slot : Slot) : (ofSlot slot).InBounds := by
  have bound := slot.isLt
  simp only [rows, cols] at bound
  simp only [InBounds, ofSlot, rows, cols]
  omega

theorem slot?_ofSlot (slot : Slot) : (ofSlot slot).slot? = some slot := by
  have inside := ofSlot_inBounds slot
  simp only [slot?, inside, dif_pos, Option.some.injEq]
  apply Fin.ext
  simp only [ofSlot, cols]
  omega

theorem ofSlot_injective : Function.Injective ofSlot := by
  intro left right same
  have place := slot?_ofSlot left
  rw [same, slot?_ofSlot, Option.some.injEq] at place
  exact place.symm

theorem slot?_eq_some_iff {address : Address} {slot : Slot} :
    address.slot? = some slot ↔ address = ofSlot slot := by
  constructor
  · intro found
    obtain ⟨col, row⟩ := address
    simp only [slot?] at found
    split at found
    · rename_i inside
      obtain ⟨rowBound, colBound⟩ := inside
      simp only [rows, cols] at rowBound colBound
      injection found with found
      subst found
      simp only [ofSlot, cols, Address.mk.injEq]
      omega
    · cases found
  · intro same
    subst same
    exact slot?_ofSlot slot

theorem slot?_eq_none_iff {address : Address} : address.slot? = none ↔ ¬ address.InBounds := by
  simp only [slot?]
  split <;> simp_all

theorem exists_slot_of_inBounds {address : Address} (inside : address.InBounds) :
    ∃ slot, address.slot? = some slot := by
  cases place : address.slot? with
  | some slot => exact ⟨slot, rfl⟩
  | none => exact absurd inside (slot?_eq_none_iff.mp place)

def columnLetters : List Char := ['A', 'B', 'C', 'D', 'E', 'F', 'G', 'H', 'I', 'J', 'K']

def rowDigits : List Char := ['0', '1', '2', '3', '4', '5', '6', '7', '8', '9']

def letter? (col : Nat) : Option Char := columnLetters[col]?

/-- The column letter and the row number. A column without a letter is written as a number sign
    and its number, with nothing between it and the row. -/
def text (address : Address) : String :=
  match letter? address.col with
  | some letter => String.ofList (letter :: Nat.toDigits 10 address.row)
  | none => String.ofList ('#' :: Nat.toDigits 10 address.col ++ Nat.toDigits 10 address.row)

def ofChars? : List Char → Option Address
  | [letter, digit] => do
    let col ← columnLetters.idxOf? letter
    let row ← rowDigits.idxOf? digit
    some ⟨col, row⟩
  | _ => none

def ofText? (text : String) : Option Address := ofChars? text.toList

def invalidLabel (label : String) : String := "Invalid cell reference: " ++ label

def ofFormula? (text : String) : Option Address :=
  match text.toList with
  | '=' :: label => ofChars? label
  | _ => none

def ofFormula (text : String) : Except Fault Address :=
  match ofFormula? text with
  | some address => .ok address
  | none => .error (.badFormula text)

theorem ofChars?_inBounds {chars : List Char} {address : Address}
    (read : ofChars? chars = some address) : address.InBounds := by
  unfold ofChars? at read
  split at read
  · rename_i letter digit
    simp only [Option.bind_eq_bind, Option.bind_eq_some_iff, Option.some.injEq] at read
    obtain ⟨col, hasLetter, row, hasDigit, same⟩ := read
    obtain ⟨colBound, _⟩ := List.idxOf?_eq_some_iff.mp hasLetter
    obtain ⟨rowBound, _⟩ := List.idxOf?_eq_some_iff.mp hasDigit
    subst same
    exact ⟨rowBound, colBound⟩
  · cases read

theorem ofFormula_eq_ok_iff {text : String} {address : Address} :
    ofFormula text = .ok address ↔ ofFormula? text = some address := by
  unfold ofFormula
  split <;> simp_all

theorem ofFormula?_eq_none_iff {text : String} :
    ofFormula? text = none ↔ ofFormula text = .error (.badFormula text) := by
  unfold ofFormula
  split <;> simp_all

theorem head?_of_ofFormula {text : String} {address : Address}
    (names : ofFormula text = .ok address) : text.toList.head? = some '=' := by
  rw [ofFormula_eq_ok_iff] at names
  unfold ofFormula? at names
  split at names
  · rename_i label chars
    rw [chars]
    rfl
  · cases names

theorem exists_slot_of_ofFormula {text : String} {address : Address}
    (names : ofFormula text = .ok address) : ∃ slot, address = ofSlot slot := by
  rw [ofFormula_eq_ok_iff] at names
  unfold ofFormula? at names
  split at names
  · have inside := ofChars?_inBounds names
    obtain ⟨slot, place⟩ := exists_slot_of_inBounds inside
    exact ⟨slot, slot?_eq_some_iff.mp place⟩
  · cases names

end Address

end Worksheet
