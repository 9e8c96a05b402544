import Worksheet.Toml.Statement

namespace Worksheet.Toml

/-- A document while it is read: what it holds so far, and the header whose table the next pair
    belongs to. -/
structure Draft where
  root : Entries
  current : List String

namespace Draft

def empty : Draft := ⟨[], []⟩

def changeRoot (draft : Draft) (path : List String)
    (edit : Mark → Entries → Option (Mark × Entries)) : Option Entries :=
  (Entries.change false edit path .header draft.root).map (·.2)

def add (draft : Draft) : Statement → Option Draft
  | .pair key item =>
    (draft.changeRoot draft.current (Entries.insert key.path key.last item)).map
      fun root => { draft with root }
  | .header key =>
    (draft.changeRoot key.path (Entries.openTable key.last)).map
      fun root => ⟨root, key.path ++ [key.last]⟩
  | .element key =>
    (draft.changeRoot key.path (Entries.openElement key.last)).map
      fun root => ⟨root, key.path ++ [key.last]⟩

end Draft

def dropByteOrderMark : List Char → List Char
  | '\uFEFF' :: rest => rest
  | chars => chars

def parse? (text : String) : Option Entries :=
  match repeatedly (fun draft => line.filterMap (Draft.add draft)) .empty
      (filler.skip (dropByteOrderMark text.toList)) with
  | (draft, []) => some draft.root
  | _ => none

/-- A way to read documents, and what it has to say about a text that gives no settings. -/
structure Reader where
  entries? : String → Option Entries
  refusal : String → String

def Reader.standard (refusal : String → String) : Reader := ⟨parse?, refusal⟩

end Worksheet.Toml
