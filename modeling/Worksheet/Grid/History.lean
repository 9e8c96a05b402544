import Worksheet.Grid.Request

namespace Worksheet

namespace Grid

structure Moment where
  grid : Grid
  request : Request

def history (grid : Grid) : List Request → List Moment
  | [] => []
  | request :: rest => ⟨grid, request⟩ :: (grid.perform request).history rest

namespace Moment

def outcome? (moment : Moment) : Option (Except Fault Unit) :=
  match moment.request with
  | .recalculate => some moment.grid.recalculate.1
  | .ensure => if moment.grid.clean then none else some moment.grid.ensure.1
  | .put .. | .setPolicy _ => none

def Succeeds (moment : Moment) : Prop := moment.outcome? = some (.ok ())

def Fails (moment : Moment) : Prop := ∃ fault, moment.outcome? = some (.error fault)

def Writes (moment : Moment) (slot : Slot) : Prop :=
  ∃ text, moment.request = .put (Address.ofSlot slot) text

def SetsPolicy (moment : Moment) : Prop := ∃ policy, moment.request = .setPolicy policy

def Disturbs (moment : Moment) : Prop :=
  (∃ slot, moment.Writes slot) ∨ moment.SetsPolicy ∨ moment.Fails

def resolved (moment : Moment) (slot : Slot) : Except Fault Binary64 :=
  moment.grid.contents.resolve moment.grid.policy slot

end Moment

/-- Some pass succeeded. The last one that did is of one kind, and all that came after it is of
    another. -/
def Since (passed kept : Moment → Prop) (history : List Moment) : Prop :=
  ∃ before pass after, history = before ++ pass :: after ∧ pass.Succeeds ∧ passed pass ∧
    ∀ later ∈ after, ¬ later.Succeeds ∧ kept later

end Grid

end Worksheet
