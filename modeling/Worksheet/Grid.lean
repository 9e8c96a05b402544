import Worksheet.Walk
import Worksheet.Binary64.Text

namespace Worksheet

structure Cell where
  raw : String
  cached : Option Binary64
deriving DecidableEq

def Cell.ofText (text : String) : Cell := ⟨text, none⟩

def faultOf? : Except Fault Binary64 → Option Fault
  | .ok _ => none
  | .error fault => some fault

/-- The texts of the grid together with the values of the last recalculation. `clean` tells that
    nothing has changed since it. -/
structure Grid where
  contents : Contents
  cache : Slots (Option Binary64)
  policy : Policy
  clean : Bool
deriving DecidableEq

namespace Grid

def uncached : Slots (Option Binary64) := .all none

def ofContents (policy : Policy) (contents : Contents) : Grid :=
  ⟨contents, uncached, policy, false⟩

def empty (policy : Policy) : Grid := ofContents policy .blank

def cached (grid : Grid) (slot : Slot) : Option Binary64 := grid.cache.read slot

def cell? (grid : Grid) (address : Address) : Option Cell :=
  address.slot?.map fun slot => ⟨grid.contents.read slot, grid.cached slot⟩

def setPolicy (grid : Grid) (policy : Policy) : Grid :=
  { grid with policy, clean := false }

/-- Replaces one cell. The cell loses its value and the other values stay behind, out of date. -/
def write (grid : Grid) (slot : Slot) (text : String) : Grid :=
  { grid with
    contents := grid.contents.write slot text
    cache := grid.cache.write slot none
    clean := false }

def put? (grid : Grid) (address : Address) (text : String) : Option (String × Grid) :=
  address.slot?.map fun slot => (grid.contents.read slot, grid.write slot text)

def recalculate (grid : Grid) : Except Fault Unit × Grid :=
  let results := grid.contents.results grid.policy
  match results.toList.findSome? faultOf? with
  | some fault => (.error fault, { grid with cache := uncached, clean := false })
  | none => (.ok (), { grid with cache := results.map Except.toOption, clean := true })

def ensure (grid : Grid) : Except Fault Unit × Grid :=
  if grid.clean then (.ok (), grid) else grid.recalculate

end Grid

end Worksheet
