import Worksheet.Proofs.Nesting
import Worksheet.Proofs.Yielding

namespace Worksheet.Toml

open Entries (Widens widens_insert widens_openTable widens_openElement)

variable {scanner : Scanner Item} {entries root : Entries} {draft next last : Draft}
  {statement : Statement} {statements : List Statement} {chars : List Char} {text : String}
  {names : List String}

theorem yields_plainValue : plainValue.Yields Item.Distinct :=
  (Scanner.yields_map fun _ _ _ => .text _).orElse <|
    (Scanner.yields_giving .scalar).orElse <| (Scanner.yields_giving .scalar).orElse <|
      (Scanner.yields_giving .scalar).orElse (Scanner.yields_giving .scalar)

theorem yields_array (items : scanner.Yields Item.Distinct) :
    (array scanner).Yields Item.Distinct := by
  refine Scanner.yields_map (Scanner.Yields.imp ?_ fun _ all => Item.Distinct.array all)
  exact ((Scanner.yields_giving nofun).orElse (items.after.separatedBy _).seqLeft).seqRight

theorem yields_pair (items : scanner.Yields Item.Distinct) :
    (pair scanner).Yields fun read => read.2.Distinct := by
  refine Scanner.yields_bind fun key => Scanner.Yields.seqRight ?_
  exact Scanner.yields_map items.after

theorem yields_inlinePair (items : scanner.Yields Item.Distinct)
    (distinct : Entries.Distinct entries) :
    (inlinePair scanner entries).Yields Entries.Distinct := by
  refine (yields_pair items).filterMap fun (key, item) made has given => ?_
  obtain ⟨next, inserted, rfl⟩ := Option.map_eq_some_iff.mp given
  exact (widens_insert key.path key.last has).distinct inserted distinct

theorem yields_inlineTable (items : scanner.Yields Item.Distinct) :
    (inlineTable scanner).Yields Item.Distinct := by
  refine Scanner.yields_map (Scanner.Yields.imp ?_ fun _ => Item.distinct_table_iff.mpr)
  have step (entries : Entries) (distinct : Entries.Distinct entries) :
      ((symbol ',' *> inlinePair scanner entries) : Scanner Entries).Yields Entries.Distinct :=
    (yields_inlinePair items distinct).seqRight
  have pairs := (yields_inlinePair items Entries.distinct_nil).repeating step
  exact ((Scanner.yields_giving Entries.distinct_nil).orElse pairs.seqLeft).seqRight

theorem yields_value (depth : Nat) : (value depth).Yields Item.Distinct := by
  induction depth with
  | zero => exact yields_plainValue
  | succ depth ih =>
    exact (yields_array ih).orElse ((yields_inlineTable ih).orElse yields_plainValue)

theorem yields_line : line.Yields Statement.Distinct := by
  have statements : statement.Yields Statement.Distinct :=
    (Scanner.yields_map fun _ _ _ => trivial).orElse <|
      (Scanner.yields_map fun _ _ _ => trivial).orElse <|
        Scanner.yields_map (yields_pair (yields_value (depthLimit - 1)))
  exact statements.skipping.ahead.skipping

theorem distinct_of_statements? (read : statements? chars = some statements) :
    ∀ statement ∈ statements, statement.Distinct := by
  fun_induction statements? chars generalizing statements with
  | case1 chars scanned found ih =>
    obtain ⟨others, later, rfl⟩ := Option.map_eq_some_iff.mp read
    have first := yields_line (Scanner.result_of_eq_some found)
    exact List.forall_mem_cons.mpr ⟨first, ih later⟩
  | case2 =>
    cases read
    exact nofun
  | case3 => cases read

namespace Draft

theorem changeRoot_widens {edit : Mark → Entries → Option (Mark × Entries)}
    {Names : List String → Prop} {path : List String} (widens : Widens edit Names)
    (changed : draft.changeRoot path edit = some root) :
    ∃ edit mark, Widens edit (fun names => ∃ more, Names more ∧ names = path ++ more) ∧
      edit .header draft.root = some (mark, root) := by
  obtain ⟨⟨mark, _⟩, edited, rfl⟩ := Option.map_eq_some_iff.mp changed
  exact ⟨_, mark, widens.change false path, edited⟩

theorem add_widens (distinct : statement.Distinct) (added : draft.add statement = some next) :
    next.current = statement.opened draft.current ∧
      ∃ edit mark, Widens edit (statement.Writes draft.current) ∧
        edit .header draft.root = some (mark, next.root) := by
  cases statement with
  | pair key item =>
    obtain ⟨root, changed, rfl⟩ := Option.map_eq_some_iff.mp added
    obtain ⟨edit, mark, widens, edited⟩ :=
      changeRoot_widens (widens_insert key.path key.last distinct) changed
    refine ⟨rfl, edit, mark, widens.narrowed ?_, edited⟩
    rintro _ ⟨more, has, rfl⟩
    refine ⟨_, ⟨more, has, rfl⟩, ?_⟩
    rw [Key.names, List.append_assoc, List.singleton_append]
  | header key =>
    obtain ⟨root, changed, rfl⟩ := Option.map_eq_some_iff.mp added
    obtain ⟨edit, mark, widens, edited⟩ := changeRoot_widens (widens_openTable key.last) changed
    exact ⟨rfl, edit, mark, widens.narrowed fun _ same => ⟨_, rfl, same⟩, edited⟩
  | element key =>
    obtain ⟨root, changed, rfl⟩ := Option.map_eq_some_iff.mp added
    obtain ⟨edit, mark, widens, edited⟩ := changeRoot_widens (widens_openElement key.last) changed
    exact ⟨rfl, edit, mark, widens.narrowed fun _ same => ⟨_, rfl, same⟩, edited⟩

/-- What a document has come to: the root with what its statements write, and the header in
    force. -/
structure Holds (draft : Draft) (statements : List Statement) : Prop where
  current : draft.current = statements.foldl Statement.opened []
  distinct : Entries.Distinct draft.root
  written : ∀ names, Written statements names → Entries.Has draft.root names

theorem holds_empty : Holds empty [] where
  current := rfl
  distinct := Entries.distinct_nil
  written := by
    rintro names ⟨before, statement, after, split, -⟩
    cases List.append_ne_nil_of_right_ne_nil before (List.cons_ne_nil statement after) split.symm

theorem writes_of_written_concat (written : Written (statements ++ [statement]) names) :
    Written statements names ∨ statement.Writes (statements.foldl Statement.opened []) names := by
  obtain ⟨before, writer, after, split, writes⟩ := written
  rcases List.eq_nil_or_concat after with rfl | ⟨others, final, rfl⟩
  · obtain ⟨rfl, same⟩ := List.append_inj' split rfl
    cases same
    exact .inr writes
  · rw [List.concat_eq_append, ← List.cons_append, ← List.append_assoc] at split
    obtain ⟨rfl, -⟩ := List.append_inj' split rfl
    exact .inl ⟨before, writer, others, rfl, writes⟩

theorem Holds.add (holds : draft.Holds statements) (distinct : statement.Distinct)
    (added : draft.add statement = some next) : next.Holds (statements ++ [statement]) := by
  obtain ⟨current, edit, mark, widens, edited⟩ := add_widens distinct added
  refine ⟨?_, widens.distinct edited holds.distinct, fun names written => ?_⟩
  · rw [current, holds.current, List.foldl_append, List.foldl_cons, List.foldl_nil]
  · rcases writes_of_written_concat written with written | writes
    · exact widens.grows edited names (holds.written names written)
    · exact widens.has edited names (holds.current ▸ writes)

theorem Holds.addAll (holds : draft.Holds statements) {more : List Statement}
    (distinct : ∀ statement ∈ more, statement.Distinct)
    (added : more.foldlM Draft.add draft = some last) : last.Holds (statements ++ more) := by
  induction more generalizing draft statements with
  | nil =>
    cases added
    rw [List.append_nil]
    exact holds
  | cons statement more ih =>
    obtain ⟨first, others⟩ := List.forall_mem_cons.mp distinct
    obtain ⟨next, step, added⟩ := Option.bind_eq_some_iff.mp added
    -- The statement moves over to those that the draft holds, for the header it may have opened.
    rw [List.append_cons]
    exact ih (holds.add first step) others added

theorem repeatedly_add_of_stuck (stuck : line chars = none) :
    repeatedly (fun draft => line.filterMap (Draft.add draft)) draft chars = (draft, chars) := by
  refine Scanner.repeatedly_of_none ?_
  rw [Scanner.result_filterMap, Scanner.result_of_eq_none stuck, Option.bind_none]

theorem repeatedly_add_eq_nil_iff :
    repeatedly (fun draft => line.filterMap (Draft.add draft)) draft chars = (last, []) ↔
      ∃ statements, statements? chars = some statements ∧
        statements.foldlM Draft.add draft = some last := by
  fun_induction statements? chars generalizing draft with
  | case1 chars scanned found ih =>
    have step : (line.filterMap (Draft.add draft)).result chars =
        (draft.add scanned.value).map fun next => (next, scanned.rest) := by
      rw [Scanner.result_filterMap, Scanner.result_of_eq_some found, Option.bind_some]
    cases added : draft.add scanned.value with
    | none =>
      -- What cannot be added is left behind with the rest of the text, and no later line helps.
      rw [added, Option.map_none] at step
      rw [Scanner.repeatedly_of_none step]
      constructor
      · rintro ⟨⟩
        cases scanned.shorter
      · rintro ⟨statements, read, last⟩
        obtain ⟨others, -, rfl⟩ := Option.map_eq_some_iff.mp read
        rw [List.foldlM_cons, added] at last
        cases last
    | some next =>
      rw [added, Option.map_some] at step
      rw [Scanner.repeatedly_of_some step, ih]
      constructor
      · rintro ⟨others, read, last⟩
        refine ⟨scanned.value :: others, by rw [read, Option.map_some], ?_⟩
        rw [List.foldlM_cons, added]
        exact last
      · rintro ⟨statements, read, last⟩
        obtain ⟨others, later, rfl⟩ := Option.map_eq_some_iff.mp read
        rw [List.foldlM_cons, added] at last
        exact ⟨others, later, last⟩
  | case2 stuck =>
    rw [repeatedly_add_of_stuck stuck]
    constructor
    · rintro ⟨⟩
      exact ⟨[], rfl, rfl⟩
    · rintro ⟨_, ⟨⟩, ⟨⟩⟩
      rfl
  | case3 chars stuck left =>
    rw [repeatedly_add_of_stuck stuck]
    exact iff_of_false (fun same => left (Prod.mk.inj same).2) nofun

end Draft

theorem parse?_eq_some_iff : parse? text = some root ↔ ∃ statements last,
    statementsOf? text = some statements ∧ statements.foldlM Draft.add .empty = some last ∧
      last.root = root := by
  unfold parse? statementsOf?
  split
  · rename_i draft read
    obtain ⟨statements, read, added⟩ := Draft.repeatedly_add_eq_nil_iff.mp read
    rw [Option.some.injEq]
    constructor
    · rintro rfl
      exact ⟨statements, draft, read, added, rfl⟩
    · rintro ⟨others, last, read', added', rfl⟩
      cases read.symm.trans read'
      cases added.symm.trans added'
      rfl
  · rename_i unread
    refine iff_of_false nofun ?_
    rintro ⟨statements, last, read, added, -⟩
    exact unread last (Draft.repeatedly_add_eq_nil_iff.mpr ⟨statements, read, added⟩)

theorem holds_of_parse? (parsed : parse? text = some root) : ∃ statements,
    statementsOf? text = some statements ∧ Entries.Distinct root ∧
      ∀ names, Written statements names → Entries.Has root names := by
  obtain ⟨statements, last, read, added, rfl⟩ := parse?_eq_some_iff.mp parsed
  have holds := Draft.holds_empty.addAll (distinct_of_statements? read) added
  exact ⟨statements, read, holds.distinct, holds.written⟩

end Worksheet.Toml
