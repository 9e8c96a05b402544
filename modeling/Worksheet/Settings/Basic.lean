import Worksheet.Fault
import Worksheet.Toml.Document

namespace Worksheet

structure Settings where
  emptyCells : Policy
deriving DecidableEq, Inhabited

namespace Settings

open Toml (Item Entries)

def isHollow : Item → Bool
  | .table _ [] | .array [] => true
  | _ => false

def policy? : Item → Option Policy
  | .text name => Policy.ofName? name
  | .table _ [(name, item)] => if isHollow item then Policy.ofName? name else none
  | _ => none

/-- The settings of the table `evaluation`. An array stands for the table of its first item, and
    what follows that item has no effect. -/
def evaluation? : Item → Option Settings
  | .table _ [] | .array [] => some ⟨.zero⟩
  | .table _ [(name, item)] => if name = "empty_cells" then (policy? item).map mk else none
  | .array (item :: _) => (policy? item).map mk
  | .tables latest earlier => do
    let entries ← (latest :: earlier).getLast?
    (policy? (.table .header entries)).map mk
  | _ => none

def ofEntries? : Entries → Option Settings
  | [] => some ⟨.zero⟩
  | [(name, item)] => if name = "evaluation" then evaluation? item else none
  | _ => none

def ofText? (reader : Toml.Reader) (text : String) : Option Settings :=
  (reader.entries? text).bind ofEntries?

end Settings

end Worksheet
