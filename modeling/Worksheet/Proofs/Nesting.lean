import Mathlib.Data.List.Nodup
import Worksheet.Toml.Nested

namespace Worksheet.Toml

variable {entries wider held : Entries} {key name : String} {item old : Item} {mark : Mark}
  {next : Mark × Entries} {names path : List String} {dotted : Bool}

namespace Item

theorem distinct_table_iff : (table mark entries).Distinct ↔ Entries.Distinct entries :=
  ⟨fun | .table _ names items => ⟨names, items⟩, fun ⟨names, items⟩ => .table mark names items⟩

theorem distinct_tables_iff {latest : Entries} {earlier : List Entries} :
    (tables latest earlier).Distinct ↔
      ∀ entries ∈ latest :: earlier, Entries.Distinct entries := by
  constructor
  · rintro (_ | _ | _ | _ | ⟨names, items⟩) entries member
    exact ⟨names entries member, items entries member⟩
  · intro all
    exact .tables (fun _ member => (all _ member).names) fun _ member => (all _ member).items

theorem eq_of_mem_inner {inner : Entries} (table : item.entries? = some entries)
    (member : inner ∈ item.inner) : inner = entries := by
  cases item <;> cases table
  exact List.mem_singleton.mp member

end Item

namespace Entries

theorem distinct_nil : Distinct [] := ⟨List.nodup_nil, nofun⟩

theorem mem_of_lookup (found : entries.lookup key = some item) : (key, item) ∈ entries := by
  obtain ⟨before, after, rfl, -⟩ := List.lookup_eq_some_iff.mp found
  exact List.mem_append_right before List.mem_cons_self

theorem not_mem_of_lookup (missing : entries.lookup key = none) :
    key ∉ entries.map Prod.fst := by
  intro listed
  obtain ⟨entry, member, rfl⟩ := List.mem_map.mp listed
  exact (bne_iff_ne.mp (List.lookup_eq_none_iff.mp missing entry member)) rfl

theorem lookup_cons_eq (key : String) (item : Item) (entries : Entries) (name : String) :
    ((key, item) :: entries).lookup name =
      if name = key then some item else entries.lookup name := by
  rw [List.lookup_cons]
  by_cases same : name = key
  · rw [beq_iff_eq.mpr same, if_pos same]
  · rw [beq_eq_false_iff_ne.mpr same, if_neg same]

theorem keys_replace (entries : Entries) (key : String) (item : Item) :
    (replace entries key item).map Prod.fst = entries.map Prod.fst := by
  rw [replace, List.map_map]
  refine List.map_congr_left fun entry _ => ?_
  by_cases same : entry.1 = key <;> simp [same]

theorem lookup_replace (entries : Entries) (key : String) (item : Item) (name : String) :
    (replace entries key item).lookup name =
      if name = key then (entries.lookup key).map fun _ => item else entries.lookup name := by
  induction entries with
  | nil => exact (ite_self none).symm
  | cons entry rest ih =>
    obtain ⟨first, value⟩ := entry
    rw [replace, List.map_cons, ← replace]
    by_cases here : first = key
    · subst here
      rw [if_pos rfl, lookup_cons_eq, ih, lookup_cons_eq, lookup_cons_eq, if_pos rfl]
      by_cases same : name = first
      · rw [if_pos same, if_pos same, Option.map_some]
      · simp only [if_neg same]
    · rw [if_neg here, lookup_cons_eq, ih, lookup_cons_eq, lookup_cons_eq, if_neg (Ne.symm here)]
      by_cases same : name = first
      · subst same
        rw [if_pos rfl, if_neg here, if_pos rfl]
      · rw [if_neg same, if_neg same]

structure Puts (entries : Entries) (key : String) (item : Item) (wider : Entries) : Prop where
  lookup : ∀ name, wider.lookup name = if name = key then some item else entries.lookup name
  distinct : Distinct entries → item.Distinct → Distinct wider

theorem puts_cons (missing : entries.lookup key = none) (item : Item) :
    Puts entries key item ((key, item) :: entries) where
  lookup := lookup_cons_eq key item entries
  distinct distinct added := ⟨List.nodup_cons.mpr ⟨not_mem_of_lookup missing, distinct.names⟩,
    List.forall_mem_cons.mpr ⟨added, distinct.items⟩⟩

theorem puts_replace (found : entries.lookup key = some old) (item : Item) :
    Puts entries key item (replace entries key item) where
  lookup name := by rw [lookup_replace, found, Option.map_some]
  distinct distinct added := by
    refine ⟨(keys_replace entries key item).symm ▸ distinct.names, fun entry member => ?_⟩
    obtain ⟨before, listed, rfl⟩ := List.mem_map.mp member
    split
    · exact added
    · exact distinct.items before listed

def Grows (entries wider : Entries) : Prop := ∀ names, Has entries names → Has wider names

theorem Puts.has (puts : Puts entries key item wider) (has : item.Has names) :
    Has wider (key :: names) := by
  have found : wider.lookup key = some item := by rw [puts.lookup, if_pos rfl]
  rcases has with rfl | ⟨inner, member, has⟩
  · exact .here found
  · exact .within found member has

theorem Puts.grows (puts : Puts entries key item wider) (kept : ∀ old names,
    entries.lookup key = some old → old.Has names → item.Has names) : Grows entries wider := by
  rintro _ (@⟨_, name, old, found⟩ | @⟨_, inner, name, old, names, found, member, has⟩)
  · by_cases same : name = key
    · subst same
      exact puts.has (.inl rfl)
    · exact .here (by rw [puts.lookup, if_neg same, found])
  · by_cases same : name = key
    · subst same
      exact puts.has (kept old names found (.inr ⟨inner, member, has⟩))
    · exact .within (by rw [puts.lookup, if_neg same, found]) member has

/-- An edit that leaves no name out of a table, and none twice in it, and gives it certain paths. -/
structure Widens (edit : Mark → Entries → Option (Mark × Entries)) (Names : List String → Prop) :
    Prop where
  distinct : ∀ {mark entries next}, edit mark entries = some next → Distinct entries →
    Distinct next.2
  grows : ∀ {mark entries next}, edit mark entries = some next → Grows entries next.2
  has : ∀ {mark entries next}, edit mark entries = some next → ∀ names, Names names →
    Has next.2 names

theorem Widens.narrowed {edit : Mark → Entries → Option (Mark × Entries)}
    {Names Fewer : List String → Prop} (widens : Widens edit Names)
    (fewer : ∀ names, Fewer names → Names names) : Widens edit Fewer where
  distinct := widens.distinct
  grows := widens.grows
  has edited names named := widens.has edited names (fewer names named)

structure Succeeds (entries : Entries) (key : String) (item : Item) (Names : List String → Prop) :
    Prop where
  distinct : Distinct entries → item.Distinct
  kept : ∀ old names, entries.lookup key = some old → old.Has names → item.Has names
  has : ∀ names, Names names → ∃ more, item.Has more ∧ names = key :: more

theorem succeeds_of_missing {Names : List String → Prop} (missing : entries.lookup key = none)
    (distinct : item.Distinct)
    (has : ∀ names, Names names → ∃ more, item.Has more ∧ names = key :: more) :
    Succeeds entries key item Names where
  distinct _ := distinct
  kept _ _ found := by cases missing.symm.trans found
  has := has

theorem widens_of_puts {edit : Mark → Entries → Option (Mark × Entries)}
    {Names : List String → Prop} (key : String)
    (puts : ∀ {mark entries next}, edit mark entries = some next →
      ∃ item, Puts entries key item next.2 ∧ Succeeds entries key item Names) :
    Widens edit Names := by
  refine ⟨fun edited distinct => ?_, fun edited => ?_, fun edited names named => ?_⟩
  · obtain ⟨item, puts, succeeds⟩ := puts edited
    exact puts.distinct distinct (succeeds.distinct distinct)
  · obtain ⟨item, puts, succeeds⟩ := puts edited
    exact puts.grows succeeds.kept
  · obtain ⟨item, puts, succeeds⟩ := puts edited
    obtain ⟨more, has, rfl⟩ := succeeds.has names named
    exact puts.has has

inductive Reshapes (edit : Mark → Entries → Option (Mark × Entries)) :
    Option Item → Item → Prop where
  | made {mark inner : Mark} {made : Entries} (edited : edit mark [] = some (inner, made)) :
      Reshapes edit none (.table inner made)
  | table {inner inner' : Mark} {held held' : Entries}
      (edited : edit inner held = some (inner', held')) :
      Reshapes edit (some (.table inner held)) (.table inner' held')
  | tables {mark mark' : Mark} {latest latest' : Entries} {earlier : List Entries}
      (edited : edit mark latest = some (mark', latest')) :
      Reshapes edit (some (.tables latest earlier)) (.tables latest' earlier)

section

variable {edit : Mark → Entries → Option (Mark × Entries)} {Names : List String → Prop}
  {found? : Option Item}

theorem change_cons (changed : change dotted edit (key :: path) mark entries = some next) :
    ∃ item, Reshapes (change dotted edit path) (entries.lookup key) item ∧
      Puts entries key item next.2 := by
  rw [change] at changed
  split at changed
  · rename_i missing
    obtain ⟨⟨inner, made⟩, edited, rfl⟩ := Option.map_eq_some_iff.mp changed
    exact ⟨_, missing ▸ .made edited, puts_cons missing _⟩
  · rename_i inner held found
    split at changed
    · cases changed
    · obtain ⟨⟨inner', held'⟩, edited, rfl⟩ := Option.map_eq_some_iff.mp changed
      exact ⟨_, found ▸ .table edited, puts_replace found _⟩
  · rename_i latest earlier found
    obtain ⟨⟨mark', latest'⟩, edited, rfl⟩ := Option.map_eq_some_iff.mp changed
    exact ⟨_, found ▸ .tables edited, puts_replace found _⟩
  · cases changed

theorem Reshapes.distinct (reshapes : Reshapes edit found? item) (widens : Widens edit Names)
    (distinct : ∀ old, found? = some old → old.Distinct) : item.Distinct := by
  cases reshapes with
  | made edited => exact Item.distinct_table_iff.mpr (widens.distinct edited distinct_nil)
  | table edited =>
    have before := Item.distinct_table_iff.mp (distinct _ rfl)
    exact Item.distinct_table_iff.mpr (widens.distinct edited before)
  | tables edited =>
    obtain ⟨first, others⟩ := List.forall_mem_cons.mp (Item.distinct_tables_iff.mp (distinct _ rfl))
    exact Item.distinct_tables_iff.mpr
      (List.forall_mem_cons.mpr ⟨widens.distinct edited first, others⟩)

theorem Reshapes.kept (reshapes : Reshapes edit found? item) (widens : Widens edit Names)
    (found : found? = some old) (has : old.Has names) : item.Has names := by
  rcases has with rfl | ⟨inner, member, has⟩
  · exact .inl rfl
  · cases reshapes with
    | made => cases found
    | table edited =>
      cases found
      obtain rfl := List.mem_singleton.mp member
      exact .inr ⟨_, List.mem_singleton_self _, widens.grows edited names has⟩
    | tables edited =>
      cases found
      rcases List.mem_cons.mp member with rfl | member
      · exact .inr ⟨_, List.mem_cons_self, widens.grows edited names has⟩
      · exact .inr ⟨inner, List.mem_cons_of_mem _ member, has⟩

theorem Reshapes.has (reshapes : Reshapes edit found? item) (widens : Widens edit Names)
    (named : Names names) : item.Has names := by
  cases reshapes with
  | made edited => exact .inr ⟨_, List.mem_singleton_self _, widens.has edited names named⟩
  | table edited => exact .inr ⟨_, List.mem_singleton_self _, widens.has edited names named⟩
  | tables edited => exact .inr ⟨_, List.mem_cons_self, widens.has edited names named⟩

theorem Widens.change (widens : Widens edit Names) (dotted : Bool) (path : List String) :
    Widens (change dotted edit path) fun names => ∃ more, Names more ∧ names = path ++ more := by
  induction path with
  | nil =>
    refine ⟨widens.distinct, widens.grows, ?_⟩
    rintro mark entries next edited names ⟨more, named, rfl⟩
    exact widens.has edited _ named
  | cons key path ih =>
    refine widens_of_puts key fun {mark entries next} changed => ?_
    obtain ⟨item, reshapes, puts⟩ := change_cons changed
    refine ⟨item, puts, fun distinct => ?_, fun old names found => ?_, ?_⟩
    · exact reshapes.distinct ih fun old found => distinct.items _ (mem_of_lookup found)
    · exact reshapes.kept ih found
    · rintro _ ⟨more, named, rfl⟩
      exact ⟨path ++ more, reshapes.has ih ⟨more, named, rfl⟩, rfl⟩

end

theorem widens_addTo (dotted : Bool) (key : String) (distinct : item.Distinct) :
    Widens (addTo dotted key item) fun names => ∃ more, item.Has more ∧ names = key :: more := by
  refine widens_of_puts key fun {mark entries next} added => ?_
  unfold addTo at added
  split at added
  · cases added
  · split at added
    · rename_i missing
      cases added
      exact ⟨item, puts_cons missing item, succeeds_of_missing missing distinct fun _ => id⟩
    · cases added

theorem widens_insert (path : List String) (key : String) (distinct : item.Distinct) :
    Widens (insert path key item) fun names =>
      ∃ more, item.Has more ∧ names = path ++ key :: more := by
  refine ((widens_addTo (!path.isEmpty) key distinct).change true path).narrowed ?_
  rintro _ ⟨more, has, rfl⟩
  exact ⟨_, ⟨more, has, rfl⟩, rfl⟩

theorem has_key (item : Item) (key : String) :
    ∀ names, names = [key] → ∃ more, item.Has more ∧ names = key :: more := by
  rintro _ rfl
  exact ⟨[], .inl rfl, rfl⟩

theorem widens_openTable (key : String) : Widens (openTable key) (· = [key]) := by
  refine widens_of_puts key fun {mark entries next} opened => ?_
  unfold openTable at opened
  split at opened
  · rename_i missing
    cases opened
    have distinct : (Item.table .header []).Distinct := Item.distinct_table_iff.mpr distinct_nil
    exact ⟨_, puts_cons missing _, succeeds_of_missing missing distinct (has_key _ key)⟩
  · rename_i held found
    cases opened
    refine ⟨_, puts_replace found _, fun distinct => ?_, fun old names known has => ?_,
      has_key _ key⟩
    · have before := distinct.items _ (mem_of_lookup found)
      exact Item.distinct_table_iff.mpr (Item.distinct_table_iff.mp before)
    · cases known.symm.trans found
      exact has
  · cases opened

theorem widens_openElement (key : String) : Widens (openElement key) (· = [key]) := by
  refine widens_of_puts key fun {mark entries next} opened => ?_
  unfold openElement at opened
  split at opened
  · rename_i missing
    cases opened
    have distinct := Item.distinct_tables_iff.mpr (List.forall_mem_singleton.mpr distinct_nil)
    exact ⟨_, puts_cons missing _, succeeds_of_missing missing distinct (has_key _ key)⟩
  · rename_i latest earlier found
    cases opened
    refine ⟨_, puts_replace found _, fun distinct => ?_, fun old names known has => ?_,
      has_key _ key⟩
    · have before := Item.distinct_tables_iff.mp (distinct.items _ (mem_of_lookup found))
      exact Item.distinct_tables_iff.mpr (List.forall_mem_cons.mpr ⟨distinct_nil, before⟩)
    · cases known.symm.trans found
      rcases has with rfl | ⟨inner, member, has⟩
      · exact .inl rfl
      · exact .inr ⟨inner, List.mem_cons_of_mem _ member, has⟩
  · cases opened

end Entries

end Worksheet.Toml
