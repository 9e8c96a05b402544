import Worksheet.Content
import Worksheet.Literal
import Worksheet.Trail

namespace Worksheet

inductive Ending where
  | blank (referenced : Bool)
  | literal (text : String)
  | broken (formula : String)
  | closed (formula : String)
  | outside (formula : String)
deriving DecidableEq

/-- A walk from formula to formula through the texts of a grid. It does not depend on what empty
    cells are worth. -/
structure Walk where
  trail : Trail
  ending : Ending
deriving DecidableEq

namespace Walk

def extend (contents : Contents) (text : String) (referenced : Bool) (trail : Trail) : Walk :=
  match Content.ofText text with
  | .empty => ⟨trail, .blank referenced⟩
  | .literal text => ⟨trail, .literal text⟩
  | .formula text =>
    match Address.ofFormula? text with
    | none => ⟨trail, .broken text⟩
    | some target =>
      match _entered : trail.enter target with
      | (false, trail) => ⟨trail, .closed text⟩
      | (true, longer) =>
        match _found : contents.get? target with
        | none => ⟨longer, .outside text⟩
        | some next => extend contents next true longer
termination_by trail.unseen
decreasing_by
  obtain ⟨slot, same⟩ := Contents.get?_isSome _found
  subst same
  have fresh : (trail.enter (Address.ofSlot slot)).1 = true := by rw [_entered]
  have less := Trail.unseen_enter fresh
  rwa [_entered] at less

def ofText (contents : Contents) (text : String) (address : Address) : Walk :=
  extend contents text false (Trail.start address)

/-- The value at the end of a walk. Only an empty cell that a formula led to is subject to the
    policy; a cell that is empty itself is worth zero. -/
def verdict (policy : Policy) (walk : Walk) : Except Fault Binary64 :=
  match walk.ending with
  | .blank referenced =>
    if referenced = true ∧ policy = .reject then .error (.badValue "") else .ok .zero
  | .literal text => Literal.read text
  | .broken text | .closed text | .outside text => .error (.badFormula text)

end Walk

namespace Contents

def resolveText (contents : Contents) (policy : Policy) (text : String) (address : Address) :
    Except Fault Binary64 :=
  (Walk.ofText contents text address).verdict policy

def resolve (contents : Contents) (policy : Policy) (slot : Slot) : Except Fault Binary64 :=
  contents.resolveText policy (contents.read slot) (Address.ofSlot slot)

def results (contents : Contents) (policy : Policy) : Slots (Except Fault Binary64) :=
  Vector.ofFn (contents.resolve policy)

def evaluate (contents : Contents) (policy : Policy) : Except Fault (Slots Binary64) :=
  Vector.ofFnM (contents.resolve policy)

end Contents

end Worksheet
