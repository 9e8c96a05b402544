import Worksheet.Sheet.Request
import Worksheet.Table

namespace Worksheet

def complaint? {α : Type} : Except SheetError α → Option String
  | .ok _ => none
  | .error error => some error.message

namespace Table

inductive Request where
  | setValueAt (address : Address) (text : String)
  | valueAt (address : Address)
  | heading (col : Nat)
  | rowCount
  | columnCount
  | editable (address : Address)
deriving DecidableEq

inductive Answer where
  | done
  | text (text : String)
  | count (number : Nat)
  | allowed (yes : Bool)
deriving DecidableEq

namespace Request

def direct? : Request → Option Sheet.Request
  | .setValueAt address text => some (.setContent address text)
  | .valueAt address => some (.getValue address)
  | .heading _ | .rowCount | .columnCount | .editable _ => none

def complaint? (request : Request) (sheet : Sheet) : Option String :=
  request.direct?.bind fun direct => Worksheet.complaint? (sheet.perform direct).1

end Request

variable {σ : Type} [MessageSink σ]

def perform (table : Table σ) : Request → Answer × Table σ
  | .setValueAt address text => (.done, table.setValueAt address text)
  | .valueAt address =>
    let (text, table) := table.valueAt address
    (.text text, table)
  | .heading col => (.text (columnHeading col), table)
  | .rowCount => (.count rows, table)
  | .columnCount => (.count cols, table)
  | .editable address => (.allowed (table.editable address), table)

def performAll (table : Table σ) : List Request → List Answer × Table σ
  | [] => ([], table)
  | request :: rest =>
    let (answer, table) := table.perform request
    let (answers, table) := table.performAll rest
    (answer :: answers, table)

/-- A table does to its sheet what the sheet does when it is asked directly. Of what fails it sends
    the message, and nothing else. -/
structure Served (table : Table σ) (request : Request) (answer : Answer) (next : Table σ) :
    Prop where
  sheet : next.sheet =
    request.direct?.elim table.sheet fun direct => (table.sheet.perform direct).2
  sent : next.sink = (request.complaint? table.sheet).toList.foldl MessageSink.send table.sink
  value : ∀ address text, request = .valueAt address →
    (table.sheet.getValue address).1 = .ok text → answer = .text text
  empty : ∀ address, request = .valueAt address →
    (answer = .text "" ↔ ∃ message, request.complaint? table.sheet = some message)

end Table

end Worksheet
