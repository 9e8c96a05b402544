import Worksheet.Sheet.Basic

namespace Worksheet

namespace Sheet

inductive Request where
  | setContent (address : Address) (text : String)
  | clear (address : Address)
  | getValue (address : Address)
  | content (address : Address)
  | load (entries : List (Address × String))
  | values
  | setPolicy (policy : Policy)
  | select (address : Address)
  | selected
  | setSelectedContent (text : String)
  | selectedValue
deriving DecidableEq

def Request.address? : Request → Option Address
  | .setContent address _ | .clear address | .getValue address | .content address
  | .select address => some address
  | _ => none

def Request.NeedsSelection : Request → Prop
  | .setSelectedContent _ | .selectedValue => True
  | _ => False

inductive Answer where
  | done
  | text (text : String)
  | display (texts : Display)
  | address (address : Address)
  | selection (selected : Option Address)
deriving DecidableEq

def Answer.entry (row : Fin rows) (col : Fin cols) : Answer → Answer
  | .display texts => .text texts[row][col]
  | given => given

def answer {α : Type} (make : α → Answer) (outcome : Except SheetError α × Sheet) :
    Except SheetError Answer × Sheet :=
  (outcome.1.map make, outcome.2)

def perform (sheet : Sheet) : Request → Except SheetError Answer × Sheet
  | .setContent address text => answer (fun _ => .done) (sheet.setContent address text)
  | .clear address => answer (fun _ => .done) (sheet.clear address)
  | .getValue address => answer .text (sheet.getValue address)
  | .content address => answer .text (sheet.content address, sheet)
  | .load entries => answer (fun _ => .done) (sheet.load entries)
  | .values => answer .display sheet.values
  | .setPolicy policy => (.ok .done, sheet.setPolicy policy)
  | .select address => answer .address (sheet.select address)
  | .selected => (.ok (.selection sheet.selected), sheet)
  | .setSelectedContent text => answer (fun _ => .done) (sheet.setSelectedContent text)
  | .selectedValue => answer .text sheet.selectedValue

theorem perform_outside {request : Request} {address : Address}
    (named : request.address? = some address) (outside : address.slot? = none) (sheet : Sheet) :
    sheet.perform request = (.error (.outOfBounds address), sheet) := by
  cases request with
  | setContent | clear | getValue | select =>
    cases named
    simp only [perform, setContent, clear, getValue, select, outside]
    rfl
  | content =>
    cases named
    simp only [perform, content, Contents.get?, outside, Option.map_none]
    rfl
  | _ => cases named

theorem perform_unselected {request : Request} (needs : request.NeedsSelection) {sheet : Sheet}
    (unselected : sheet.selection = none) :
    sheet.perform request = (.error .noSelection, sheet) := by
  cases request with
  | setSelectedContent | selectedValue =>
    simp only [perform, setSelectedContent, selectedValue, unselected]
    rfl
  | _ => cases needs

def performAll (sheet : Sheet) : List Request → List (Except SheetError Answer) × Sheet
  | [] => ([], sheet)
  | request :: rest =>
    let (answer, sheet) := sheet.perform request
    let (answers, sheet) := sheet.performAll rest
    (answer :: answers, sheet)

end Sheet

end Worksheet
