namespace Worksheet

abbrev rows : Nat := 10
abbrev cols : Nat := 11

-- The zero is the one that numerals of `Fin` are stated with.
instance : @NeZero Nat Zero.ofOfNat0 (rows * cols) := ⟨by decide⟩

/-- A place in the grid, numbered row by row. -/
abbrev Slot := Fin (rows * cols)

abbrev Slots (α : Type) : Type := Vector α (rows * cols)

namespace Slots

variable {α : Type}

def all (item : α) : Slots α := Vector.replicate (rows * cols) item

def read (slots : Slots α) (slot : Slot) : α := slots[slot]

def write (slots : Slots α) (slot : Slot) (item : α) : Slots α := slots.set slot item

theorem read_all (item : α) (slot : Slot) : (all item).read slot = item := by simp [all, read]

theorem read_ofFn (item : Slot → α) (slot : Slot) :
    read (Vector.ofFn item : Slots α) slot = item slot := by
  simp only [read, Fin.getElem_fin, Vector.getElem_ofFn, Fin.eta]

theorem read_map {β : Type} (change : α → β) (slots : Slots α) (slot : Slot) :
    read (slots.map change : Slots β) slot = change (slots.read slot) := by
  simp only [read, Fin.getElem_fin, Vector.getElem_map]

theorem read_write (slots : Slots α) (slot other : Slot) (item : α) :
    (slots.write slot item).read other = if slot = other then item else slots.read other := by
  simp only [read, write, Fin.getElem_fin, Vector.getElem_set, Fin.ext_iff]

theorem ext_of {left right : Slots α} (same : ∀ slot, left.read slot = right.read slot) :
    left = right := by
  apply Vector.ext
  intro i inside
  exact same ⟨i, inside⟩

end Slots

end Worksheet
