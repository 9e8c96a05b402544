import Worksheet.Sheet.Uncached
import Worksheet.Table

namespace Worksheet

def Grid.stale? (grid : Grid) : Option Contents :=
  if grid.clean then none else some grid.contents

namespace Sheet

namespace Request

def addresses : Request → List Address
  | .load entries => entries.map Prod.fst
  | request => request.address?.toList

def outside? (request : Request) : Option Address :=
  request.addresses.find? fun address => decide (¬ address.InBounds)

def Writes : Request → Prop
  | .setContent .. | .clear _ | .load _ | .setSelectedContent _ => True
  | _ => False

def written? (sheet : Sheet) : Request → Option Contents
  | .setContent address text => sheet.grid.contents.put? address text
  | .clear address => sheet.grid.contents.put? address ""
  | .load entries => if ∀ entry ∈ entries, entry.1.InBounds then some (.listed entries) else none
  | .setSelectedContent text => sheet.selection.map fun slot => sheet.grid.contents.write slot text
  | _ => none

def evaluated? (sheet : Sheet) : Request → Option Contents
  | .getValue address => address.slot?.bind fun _ => sheet.grid.stale?
  | .values => sheet.grid.stale?
  | .selectedValue => sheet.selection.bind fun _ => sheet.grid.stale?
  | request => request.written? sheet

def passed (sheet : Sheet) (last : Option Policy) (request : Request) : Option Policy :=
  match request.evaluated? sheet with
  | some contents =>
    match (Grid.ofContents sheet.grid.policy contents).recalculate.1 with
    | .ok () => some sheet.grid.policy
    | .error _ => last
  | none => last

end Request

/-- The sheets that an empty sheet can become when requests are made of it, of the sheet itself or
    of tables in front of it, and the policy of the last recalculation that succeeded on the way. -/
inductive Reached : Sheet → Option Policy → Prop where
  | start (policy : Policy) : Reached (empty policy) none
  | request {sheet : Sheet} {last : Option Policy} (reached : Reached sheet last)
      (request : Request) : Reached (sheet.perform request).2 (request.passed sheet last)
  | write {sheet : Sheet} {last : Option Policy} {σ : Type} [MessageSink σ]
      (reached : Reached sheet last) (sink : σ) (address : Address) (text : String) :
      Reached (Table.setValueAt ⟨sheet, sink⟩ address text).sheet
        ((Request.setContent address text).passed sheet last)
  | read {sheet : Sheet} {last : Option Policy} {σ : Type} [MessageSink σ]
      (reached : Reached sheet last) (sink : σ) (address : Address) :
      Reached (Table.valueAt ⟨sheet, sink⟩ address).2.sheet
        ((Request.getValue address).passed sheet last)

end Sheet

end Worksheet
