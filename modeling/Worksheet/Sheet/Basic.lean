import Worksheet.Grid

namespace Worksheet

inductive SheetError where
  | fault (cause : Fault)
  | outOfBounds (address : Address)
  | noSelection
deriving DecidableEq

def SheetError.message : SheetError → String
  | .fault cause => cause.message
  | .outOfBounds address =>
    "Cell out of bounds: row " ++ address.row.repr ++ ", column " ++ address.col.repr
  | .noSelection => "No cell selected"

structure Sheet where
  grid : Grid
  selection : Option Slot
deriving DecidableEq

abbrev Display := Vector (Vector String cols) rows

def slotAt (row : Fin rows) (col : Fin cols) : Slot :=
  ⟨row.val * cols + col.val, by
    have inRow := row.isLt
    have inCol := col.isLt
    simp only [rows, cols] at *
    omega⟩

theorem slot?_slotAt (row : Fin rows) (col : Fin cols) :
    Address.slot? ⟨col, row⟩ = some (slotAt row col) := by
  have inside : Address.InBounds ⟨col, row⟩ := ⟨row.isLt, col.isLt⟩
  rw [Address.slot?, dif_pos inside]
  rfl

namespace Contents

def putAll (contents : Contents) (entries : List (Address × String)) : Except Address Contents :=
  entries.foldlM (fun contents (address, text) =>
    match contents.put? address text with
    | some written => .ok written
    | none => .error address) contents

def ofEntries (entries : List (Address × String)) : Except Address Contents := blank.putAll entries

end Contents

namespace Sheet

def empty (policy : Policy) : Sheet := ⟨Grid.empty policy, none⟩

def settle (sheet : Sheet) (grid : Grid) : Except SheetError Unit × Sheet :=
  let (result, grid) := grid.recalculate
  (result.mapError .fault, { sheet with grid })

def store (sheet : Sheet) (slot : Slot) (text : String) : Except SheetError Unit × Sheet :=
  sheet.settle (sheet.grid.write slot text)

/-- Writes a cell and recalculates the sheet. The text stays even if a cell is at fault; until it
    is corrected every read meets the same fault. -/
def setContent (sheet : Sheet) (address : Address) (text : String) :
    Except SheetError Unit × Sheet :=
  match address.slot? with
  | some slot => sheet.store slot text
  | none => (.error (.outOfBounds address), sheet)

def clear (sheet : Sheet) (address : Address) : Except SheetError Unit × Sheet :=
  sheet.setContent address ""

def read (sheet : Sheet) (slot : Slot) : Except SheetError String × Sheet :=
  match sheet.grid.ensure with
  | (.error fault, grid) => (.error (.fault fault), { sheet with grid })
  | (.ok (), grid) =>
    match grid.cached slot with
    | some value => (.ok value.text, { sheet with grid })
    | none => (.error (.outOfBounds (Address.ofSlot slot)), { sheet with grid })

def getValue (sheet : Sheet) (address : Address) : Except SheetError String × Sheet :=
  match address.slot? with
  | some slot => sheet.read slot
  | none => (.error (.outOfBounds address), sheet)

def content (sheet : Sheet) (address : Address) : Except SheetError String :=
  match sheet.grid.contents.get? address with
  | some text => .ok text
  | none => .error (.outOfBounds address)

/-- Replaces the contents of all cells. Cells that are not listed become empty, and of two texts
    for one cell the later one counts. Nothing changes if the grid lacks one of the addresses. -/
def load (sheet : Sheet) (entries : List (Address × String)) : Except SheetError Unit × Sheet :=
  match Contents.ofEntries entries with
  | .error address => (.error (.outOfBounds address), sheet)
  | .ok contents => sheet.settle (.ofContents sheet.grid.policy contents)

def values (sheet : Sheet) : Except SheetError Display × Sheet :=
  let (result, grid) := sheet.grid.ensure
  let display := Vector.ofFn fun row => Vector.ofFn fun col =>
    ((grid.cached (slotAt row col)).map Binary64.text).getD ""
  ((result.mapError .fault).map fun _ => display, { sheet with grid })

def setPolicy (sheet : Sheet) (policy : Policy) : Sheet :=
  { sheet with grid := sheet.grid.setPolicy policy }

def select (sheet : Sheet) (address : Address) : Except SheetError Address × Sheet :=
  match address.slot? with
  | some slot => (.ok address, { sheet with selection := some slot })
  | none => (.error (.outOfBounds address), sheet)

def selected (sheet : Sheet) : Option Address := sheet.selection.map Address.ofSlot

def setSelectedContent (sheet : Sheet) (text : String) : Except SheetError Unit × Sheet :=
  match sheet.selection with
  | some slot => sheet.store slot text
  | none => (.error .noSelection, sheet)

def selectedValue (sheet : Sheet) : Except SheetError String × Sheet :=
  match sheet.selection with
  | some slot => sheet.read slot
  | none => (.error .noSelection, sheet)

end Sheet

end Worksheet
