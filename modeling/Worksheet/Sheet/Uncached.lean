import Worksheet.Sheet.Request

namespace Worksheet

def Contents.listed (entries : List (Address × String)) : Contents :=
  ⟨Vector.ofFn fun slot => (entries.reverse.lookup (Address.ofSlot slot)).getD ""⟩

/-- A sheet that remembers no values: whatever it shows is worked out anew from the texts. -/
structure Uncached where
  contents : Contents
  policy : Policy
  selection : Option Slot
deriving DecidableEq

namespace Uncached

open Sheet (Request Answer)

def empty (policy : Policy) : Uncached := ⟨.blank, policy, none⟩

def evaluated (sheet : Uncached) (make : Slots Binary64 → Answer) : Except SheetError Answer :=
  match sheet.contents.evaluate sheet.policy with
  | .ok values => .ok (make values)
  | .error fault => .error (.fault fault)

def replace (sheet : Uncached) (contents : Contents) : Except SheetError Answer × Uncached :=
  let sheet := { sheet with contents }
  (sheet.evaluated fun _ => .done, sheet)

def store (sheet : Uncached) (slot : Slot) (text : String) : Except SheetError Answer × Uncached :=
  sheet.replace (sheet.contents.write slot text)

def shown (sheet : Uncached) (slot : Slot) : Except SheetError Answer × Uncached :=
  (sheet.evaluated fun values => .text (values.read slot).text, sheet)

def within (sheet : Uncached) (address : Address)
    (action : Slot → Except SheetError Answer × Uncached) : Except SheetError Answer × Uncached :=
  match address.slot? with
  | some slot => action slot
  | none => (.error (.outOfBounds address), sheet)

def withSelection (sheet : Uncached) (action : Slot → Except SheetError Answer × Uncached) :
    Except SheetError Answer × Uncached :=
  match sheet.selection with
  | some slot => action slot
  | none => (.error .noSelection, sheet)

def perform (sheet : Uncached) : Request → Except SheetError Answer × Uncached
  | .setContent address text => sheet.within address fun slot => sheet.store slot text
  | .clear address => sheet.within address fun slot => sheet.store slot ""
  | .getValue address => sheet.within address sheet.shown
  | .content address =>
    sheet.within address fun slot => (.ok (.text (sheet.contents.read slot)), sheet)
  | .load entries =>
    match entries.find? fun entry => decide (¬ entry.1.InBounds) with
    | some (address, _) => (.error (.outOfBounds address), sheet)
    | none => sheet.replace (.listed entries)
  | .values =>
    (sheet.evaluated fun values =>
      .display (Vector.ofFn fun row => Vector.ofFn fun col =>
        (values.read (slotAt row col)).text), sheet)
  | .setPolicy policy => (.ok .done, { sheet with policy })
  | .select address =>
    sheet.within address fun slot => (.ok (.address address), { sheet with selection := some slot })
  | .selected => (.ok (.selection (sheet.selection.map Address.ofSlot)), sheet)
  | .setSelectedContent text => sheet.withSelection fun slot => sheet.store slot text
  | .selectedValue => sheet.withSelection sheet.shown

theorem perform_outside {request : Request} {address : Address}
    (named : request.address? = some address) (outside : address.slot? = none)
    (sheet : Uncached) : sheet.perform request = (.error (.outOfBounds address), sheet) := by
  cases request with
  | setContent | clear | getValue | content | select =>
    cases named
    simp only [perform, within, outside]
  | _ => cases named

theorem perform_unselected {request : Request} (needs : request.NeedsSelection)
    {sheet : Uncached} (unselected : sheet.selection = none) :
    sheet.perform request = (.error .noSelection, sheet) := by
  cases request with
  | setSelectedContent | selectedValue => simp only [perform, withSelection, unselected]
  | _ => cases needs

theorem getValue_eq_entry (sheet : Uncached) (row : Fin rows) (col : Fin cols) :
    (sheet.perform (.getValue ⟨col, row⟩)).1 =
      (sheet.perform .values).1.map (Answer.entry row col) := by
  simp only [perform, within, slot?_slotAt, shown, evaluated]
  cases sheet.contents.evaluate sheet.policy with
  | ok values =>
    simp only [Except.map, Answer.entry, Fin.getElem_fin, Vector.getElem_ofFn, Fin.eta]
  | error fault => rfl

def performAll (sheet : Uncached) : List Request → List (Except SheetError Answer) × Uncached
  | [] => ([], sheet)
  | request :: rest =>
    let (answer, sheet) := sheet.perform request
    let (answers, sheet) := sheet.performAll rest
    (answer :: answers, sheet)

end Uncached

end Worksheet
