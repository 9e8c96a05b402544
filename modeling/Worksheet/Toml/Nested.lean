import Worksheet.Toml.Document

namespace Worksheet.Toml

namespace Item

def entries? : Item → Option Entries
  | .table _ entries => some entries
  | _ => none

def elements? : Item → Option (List Item)
  | .array items => some items
  -- Such tables are held with the last one of the document in front.
  | .tables latest earlier => some ((latest :: earlier).reverse.map (.table .header))
  | _ => none

def inner : Item → List Entries
  | .table _ entries => [entries]
  | .tables latest earlier => latest :: earlier
  | _ => []

inductive Distinct : Item → Prop where
  | scalar : Distinct .scalar
  | text (text : String) : Distinct (.text text)
  | array {values : List Item} (items : ∀ item ∈ values, Distinct item) : Distinct (.array values)
  | table (mark : Mark) {entries : Entries} (names : (entries.map Prod.fst).Nodup)
      (items : ∀ entry ∈ entries, Distinct entry.2) : Distinct (.table mark entries)
  | tables {latest : Entries} {earlier : List Entries}
      (names : ∀ entries ∈ latest :: earlier, (entries.map Prod.fst).Nodup)
      (items : ∀ entries ∈ latest :: earlier, ∀ entry ∈ entries, Distinct entry.2) :
      Distinct (.tables latest earlier)

end Item

namespace Entries

structure Distinct (entries : Entries) : Prop where
  names : (entries.map Prod.fst).Nodup
  items : ∀ entry ∈ entries, entry.2.Distinct

inductive Has : Entries → List String → Prop where
  | here {entries : Entries} {name : String} {item : Item}
      (found : entries.lookup name = some item) : Has entries [name]
  | within {entries inner : Entries} {name : String} {item : Item} {names : List String}
      (found : entries.lookup name = some item) (member : inner ∈ item.inner)
      (has : Has inner names) : Has entries (name :: names)

end Entries

def Reader.Distinct (reader : Reader) : Prop :=
  ∀ text root, reader.entries? text = some root → Entries.Distinct root

def Item.Has (item : Item) (names : List String) : Prop :=
  names = [] ∨ ∃ inner ∈ item.inner, Entries.Has inner names

def Key.names (key : Key) : List String := key.path ++ [key.last]

namespace Statement

def opened (current : List String) : Statement → List String
  | .pair _ _ => current
  | .header key | .element key => key.names

/-- The full names that a statement gives to what it writes. The name of a pair continues that of
    the header in force, and names in braces continue that of the pair. -/
def Writes (current : List String) : Statement → List String → Prop
  | .pair key item, names => ∃ more, item.Has more ∧ names = current ++ (key.names ++ more)
  | .header key, names | .element key, names => names = key.names

def Distinct : Statement → Prop
  | .pair _ item => item.Distinct
  | .header _ | .element _ => True

end Statement

def Written (statements : List Statement) (names : List String) : Prop :=
  ∃ before statement after, statements = before ++ statement :: after ∧
    statement.Writes (before.foldl Statement.opened []) names

def statements? (chars : List Char) : Option (List Statement) :=
  match line chars with
  | some read => (statements? read.rest).map (read.value :: ·)
  | none => if chars = [] then some [] else none
termination_by chars.length
decreasing_by exact read.shorter

def statementsOf? (text : String) : Option (List Statement) :=
  statements? (filler.skip (dropByteOrderMark text.toList))

end Worksheet.Toml
