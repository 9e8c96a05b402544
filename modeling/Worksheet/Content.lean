import Worksheet.Address

namespace Worksheet

inductive Content where
  | empty
  | literal (text : String)
  | formula (text : String)
deriving DecidableEq

/-- A text that begins with an equals sign is a formula, any other that is not empty a literal.
    Blanks are part of the text. -/
def Content.ofText (text : String) : Content :=
  match text.toList with
  | [] => .empty
  | '=' :: _ => .formula text
  | _ => .literal text

namespace Content

theorem ofText_eq_empty_iff {text : String} : ofText text = .empty ↔ text = "" := by
  rw [← String.toList_eq_nil_iff]
  unfold ofText
  split
  · rename_i chars
    simp only [chars]
  · rename_i chars
    simp only [chars, reduceCtorEq]
  · rename_i nonempty _
    simp only [reduceCtorEq, false_iff]
    exact nonempty

theorem ofText_eq_formula_iff {text formula : String} :
    ofText text = .formula formula ↔ text.toList.head? = some '=' ∧ formula = text := by
  unfold ofText
  split
  · rename_i chars
    simp only [chars, List.head?_nil, reduceCtorEq, false_and]
  · rename_i label chars
    simp only [chars, List.head?_cons, true_and, Content.formula.injEq]
    exact eq_comm
  · rename_i noSign
    simp only [reduceCtorEq, false_iff, not_and]
    intro sign
    obtain ⟨label, chars⟩ := List.head?_eq_some_iff.mp sign
    exact absurd chars (noSign label)

theorem ofText_eq_literal_iff {text literal : String} :
    ofText text = .literal literal ↔
      text ≠ "" ∧ text.toList.head? ≠ some '=' ∧ literal = text := by
  rw [ne_eq, ← String.toList_eq_nil_iff]
  unfold ofText
  split
  · rename_i chars
    simp only [chars, not_true_eq_false, reduceCtorEq, false_and]
  · rename_i label chars
    simp only [chars, List.head?_cons, ne_eq, not_true_eq_false, reduceCtorEq, false_and, and_false]
  · rename_i nonempty noSign
    have noHead : text.toList.head? ≠ some '=' := by
      intro sign
      obtain ⟨label, chars⟩ := List.head?_eq_some_iff.mp sign
      exact noSign label chars
    simp only [ne_eq, noHead, not_false_eq_true, true_and, Content.literal.injEq]
    exact ⟨fun same => ⟨nonempty, same.symm⟩, fun same => same.2.symm⟩

theorem ofText_of_ofFormula {text : String} {address : Address}
    (names : Address.ofFormula text = .ok address) : ofText text = .formula text :=
  ofText_eq_formula_iff.mpr ⟨Address.head?_of_ofFormula names, rfl⟩

end Content

structure Contents where
  texts : Slots String
deriving DecidableEq

namespace Contents

def blank : Contents := ⟨.all ""⟩

def read (contents : Contents) (slot : Slot) : String := contents.texts.read slot

def write (contents : Contents) (slot : Slot) (text : String) : Contents :=
  ⟨contents.texts.write slot text⟩

def get? (contents : Contents) (address : Address) : Option String :=
  address.slot?.map contents.read

def put? (contents : Contents) (address : Address) (text : String) : Option Contents :=
  address.slot?.map fun slot => contents.write slot text

theorem read_blank (slot : Slot) : blank.read slot = "" := Slots.read_all "" slot

theorem read_write (contents : Contents) (slot other : Slot) (text : String) :
    (contents.write slot text).read other = if slot = other then text else contents.read other :=
  Slots.read_write contents.texts slot other text

theorem ext_of {left right : Contents} (same : ∀ slot, left.read slot = right.read slot) :
    left = right := by
  cases left
  cases right
  congr
  exact Slots.ext_of same

theorem get?_ofSlot (contents : Contents) (slot : Slot) :
    contents.get? (Address.ofSlot slot) = some (contents.read slot) := by
  simp only [get?, Address.slot?_ofSlot, Option.map_some]

theorem get?_isSome {contents : Contents} {address : Address} {text : String}
    (found : contents.get? address = some text) : ∃ slot, address = Address.ofSlot slot := by
  obtain ⟨slot, place, _⟩ := Option.map_eq_some_iff.mp found
  exact ⟨slot, Address.slot?_eq_some_iff.mp place⟩

end Contents

end Worksheet
