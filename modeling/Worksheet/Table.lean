import Worksheet.Sheet.Basic

namespace Worksheet

class MessageSink (σ : Type) where
  send : σ → String → σ

/-- A sheet behind a table that cannot handle errors. What goes wrong is sent to the sink, and the
    table is given something it can draw. -/
structure Table (σ : Type) where
  sheet : Sheet
  sink : σ

namespace Table

variable {σ : Type} [MessageSink σ]

def absorb {α : Type} (table : Table σ) (default : α) :
    Except SheetError α × Sheet → α × Table σ
  | (.ok value, sheet) => (value, { table with sheet })
  | (.error error, sheet) => (default, ⟨sheet, MessageSink.send table.sink error.message⟩)

def setValueAt (table : Table σ) (address : Address) (text : String) : Table σ :=
  (table.absorb () (table.sheet.setContent address text)).2

def valueAt (table : Table σ) (address : Address) : String × Table σ :=
  table.absorb "" (table.sheet.getValue address)

end Table

def columnHeading (col : Nat) : String :=
  match Address.letter? col with
  | some letter => letter.toString
  | none => ""

def Table.editable {σ : Type} (_ : Table σ) (_ : Address) : Bool := false

end Worksheet
