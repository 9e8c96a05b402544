import Worksheet.Grid

namespace Worksheet

structure Visit where
  cell : Cell
  referenced : Bool
  trail : Trail

namespace Visit

def start (cell : Cell) (address : Address) : Visit := ⟨cell, false, .start address⟩

def look (grid : Grid) (visit : Visit) : Walk ⊕ Visit :=
  match Content.ofText visit.cell.raw with
  | .empty => .inl ⟨visit.trail, .blank visit.referenced⟩
  | .literal text => .inl ⟨visit.trail, .literal text⟩
  | .formula text =>
    match Address.ofFormula? text with
    | none => .inl ⟨visit.trail, .broken text⟩
    | some target =>
      match visit.trail.enter target with
      | (false, trail) => .inl ⟨trail, .closed text⟩
      | (true, longer) =>
        match grid.cell? target with
        | none => .inl ⟨longer, .outside text⟩
        | some cell => .inr ⟨cell, true, longer⟩

inductive Ends (grid : Grid) : Visit → Nat → Walk → Prop where
  | here {visit : Visit} {walk : Walk} (looked : visit.look grid = .inl walk) :
      Ends grid visit 1 walk
  | onwards {visit next : Visit} {count : Nat} {walk : Walk}
      (looked : visit.look grid = .inr next) (ends : Ends grid next count walk) :
      Ends grid visit (count + 1) walk

end Visit

namespace Grid

def Resolves (grid : Grid) (slot : Slot) (result : Except Fault Binary64) : Prop :=
  ∃ cell count walk, grid.cell? (Address.ofSlot slot) = some cell ∧
    Visit.Ends grid (.start cell (Address.ofSlot slot)) count walk ∧
      walk.verdict grid.policy = result

def setCached (grid : Grid) (slot : Slot) (value : Option Binary64) : Grid :=
  { grid with cache := grid.cache.write slot value }

def setAllCached (grid : Grid) (values : Slot → Option Binary64) (slots : List Slot) : Grid :=
  slots.foldl (fun grid slot => grid.setCached slot (values slot)) grid

/-- A pass that walks from every cell, row by row, until one has no value. Only then it goes through
    the cells again, to give each of them its value or to take all values away. -/
inductive Passes (grid : Grid) : Except Fault Unit → Grid → Prop where
  | succeeds {values : Slots Binary64}
      (fine : ∀ slot, grid.Resolves slot (.ok (values.read slot))) :
      Passes grid (.ok ())
        { grid.setAllCached (fun slot => some (values.read slot)) (List.finRange (rows * cols)) with
          clean := true }
  | fails {slot : Slot} {fault : Fault} (failed : grid.Resolves slot (.error fault))
      (before : ∀ earlier < slot, ∃ value, grid.Resolves earlier (.ok value)) :
      Passes grid (.error fault)
        { grid.setAllCached (fun _ => none) (List.finRange (rows * cols)) with clean := false }

end Grid

end Worksheet
