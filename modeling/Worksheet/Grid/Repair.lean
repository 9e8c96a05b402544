import Worksheet.Grid

namespace Worksheet

def Walk.examined (walk : Walk) : List Address :=
  match walk.ending with
  | .outside _ => walk.trail.seen.tail
  | _ => walk.trail.seen

namespace Contents

def walk (contents : Contents) (slot : Slot) : Walk :=
  Walk.ofText contents (contents.read slot) (Address.ofSlot slot)

def failing (contents : Contents) (policy : Policy) : List Slot :=
  (List.finRange (rows * cols)).filter fun slot =>
    (faultOf? (contents.resolve policy slot)).isSome

/-- The last cell that the walk from the first cell without a value looks into. -/
def culprit? (contents : Contents) (policy : Policy) : Option Slot := do
  let first ← (contents.failing policy).head?
  let address ← (contents.walk first).examined.head?
  address.slot?

end Contents

namespace Grid

def repair (grid : Grid) (text : String) : Grid :=
  match grid.contents.culprit? grid.policy with
  | some slot => grid.write slot text
  | none => grid

def repairAll (grid : Grid) (texts : List String) : Grid := texts.foldl repair grid

end Grid

end Worksheet
