namespace Worksheet.Toml

/-- How a table came about, which decides what may still be added to it: under a header of its own
    or as the document itself, in the name of a longer header only, by a dotted key, or in braces,
    when it is closed. -/
inductive Mark where
  | header
  | implied
  | dotted
  | closed
deriving DecidableEq

/-- What a name in a document stands for. Of numbers, truth values and dates no more is kept than
    that they are none of the other kinds. -/
inductive Item where
  | scalar
  | text (text : String)
  | array (items : List Item)
  | table (mark : Mark) (entries : List (String × Item))
  | tables (latest : List (String × Item)) (earlier : List (List (String × Item)))

abbrev Entries := List (String × Item)

namespace Entries

def replace (entries : Entries) (key : String) (item : Item) : Entries :=
  entries.map fun entry => if entry.1 = key then (key, item) else entry

/-- Changes the table that a path leads to. Tables that the path names for the first time are
    made. A dotted path must not enter a table that has a header, and no path can enter a table in
    braces. -/
def change (dotted : Bool) (edit : Mark → Entries → Option (Mark × Entries)) :
    List String → Mark → Entries → Option (Mark × Entries)
  | [], mark, entries => edit mark entries
  | key :: path, mark, entries =>
    match entries.lookup key with
    | none =>
      (change dotted edit path (if dotted then .dotted else .implied) []).map
        fun (inner, made) => (mark, (key, .table inner made) :: entries)
    | some (.table inner held) =>
      if inner = .closed || dotted && inner = .header then none
      else
        (change dotted edit path inner held).map
          fun (inner, held) => (mark, replace entries key (.table inner held))
    | some (.tables latest earlier) =>
      (change dotted edit path .header latest).map
        fun (_, latest) => (mark, replace entries key (.tables latest earlier))
    | some _ => none

def addTo (dotted : Bool) (key : String) (item : Item) (mark : Mark) (entries : Entries) :
    Option (Mark × Entries) :=
  if decide (mark = .dotted) != dotted then none
  else
    match entries.lookup key with
    | none => some (mark, (key, item) :: entries)
    | some _ => none

def insert (path : List String) (key : String) (item : Item) (mark : Mark) (entries : Entries) :
    Option (Mark × Entries) :=
  change true (addTo (!path.isEmpty) key item) path mark entries

def openTable (key : String) (mark : Mark) (entries : Entries) : Option (Mark × Entries) :=
  match entries.lookup key with
  | none => some (mark, (key, .table .header []) :: entries)
  | some (.table .implied held) => some (mark, replace entries key (.table .header held))
  | some _ => none

def openElement (key : String) (mark : Mark) (entries : Entries) : Option (Mark × Entries) :=
  match entries.lookup key with
  | none => some (mark, (key, .tables [] []) :: entries)
  | some (.tables latest earlier) =>
    some (mark, replace entries key (.tables [] (latest :: earlier)))
  | some _ => none

end Entries

end Worksheet.Toml
