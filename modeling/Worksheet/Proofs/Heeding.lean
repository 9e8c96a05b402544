import Worksheet.Proofs.Configuring
import Worksheet.Proofs.Drafting

namespace Worksheet.Settings

open Toml (Entries Item Mark Reader Statement Written statementsOf?)

variable {root entries : Entries} {evaluation item : Item} {settings : Settings} {policy : Policy}
  {text key : String}

def emptyCells? (evaluation : Item) : Option Item :=
  match evaluation.entries? with
  | some entries => entries.lookup "empty_cells"
  | none => evaluation.elements?.bind List.head?

/-- An item called `evaluation` is a table with no other name than `empty_cells`, or an array, and
    this is the policy that it names. Where it gives nothing for `empty_cells`, it is the default. -/
structure Grants (evaluation : Item) (policy : Policy) : Prop where
  kind : evaluation.entries?.isSome ∨ evaluation.elements?.isSome
  keys : ∀ entries, evaluation.entries? = some entries →
    ∀ name ∈ entries.map Prod.fst, name = "empty_cells"
  named : ∀ item, emptyCells? evaluation = some item → Names item policy.name
  unnamed : emptyCells? evaluation = none → policy = .zero

structure Heeds (root : Entries) (policy : Policy) : Prop where
  keys : ∀ name ∈ root.map Prod.fst, name = "evaluation"
  given : ∀ evaluation, root.lookup "evaluation" = some evaluation → Grants evaluation policy
  absent : root.lookup "evaluation" = none → policy = .zero

inductive Faulty (root : Entries) : Prop where
  | key {name : String} (listed : name ∈ root.map Prod.fst) (stray : name ≠ "evaluation")
  | kind {evaluation : Item} (given : root.lookup "evaluation" = some evaluation)
      (table : evaluation.entries? = none) (array : evaluation.elements? = none)
  | innerKey {evaluation : Item} {entries : Entries} {name : String}
      (given : root.lookup "evaluation" = some evaluation)
      (table : evaluation.entries? = some entries) (listed : name ∈ entries.map Prod.fst)
      (stray : name ≠ "empty_cells")
  | policy {evaluation item : Item} (given : root.lookup "evaluation" = some evaluation)
      (cells : emptyCells? evaluation = some item)
      (nameless : ∀ policy : Policy, ¬ Names item policy.name)

theorem policy?_eq_some_iff : policy? item = some policy ↔ Names item policy.name := by
  refine ⟨names_of_policy?, fun names => ?_⟩
  generalize same : policy.name = name at names
  cases names with
  | text => rw [policy?, ← same, Policy.ofName?_name]
  | key mark _ hollow => rw [policy?, if_pos hollow, ← same, Policy.ofName?_name]

theorem map_policy?_eq_some_iff :
    (policy? item).map mk = some settings ↔ Names item settings.emptyCells.name := by
  rw [← policy?_eq_some_iff, Option.map_eq_some_iff]
  constructor
  · rintro ⟨policy, given, rfl⟩
    exact given
  · exact fun given => ⟨settings.emptyCells, given, rfl⟩

theorem eq_nil_or_singleton (distinct : (entries.map Prod.fst).Nodup)
    (only : ∀ name ∈ entries.map Prod.fst, name = key) :
    entries = [] ∨ ∃ item, entries = [(key, item)] := by
  match entries, distinct, only with
  | [], _, _ => exact .inl rfl
  | [(name, item)], _, only =>
    obtain rfl := only name List.mem_cons_self
    exact .inr ⟨item, rfl⟩
  | (first, _) :: (second, _) :: _, distinct, only =>
    have same : first = second := (only first (by simp)).trans (only second (by simp)).symm
    simp [same] at distinct

section

variable (kind : evaluation.entries?.isSome ∨ evaluation.elements?.isSome)
  (keys : ∀ entries, evaluation.entries? = some entries →
    ∀ name ∈ entries.map Prod.fst, name = "empty_cells")

include kind keys

theorem grants_iff_names (given : emptyCells? evaluation = some item) :
    Grants evaluation policy ↔ Names item policy.name := by
  refine ⟨fun grants => grants.named item given, fun names => ⟨kind, keys, ?_, ?_⟩⟩
  · intro other known
    cases known.symm.trans given
    exact names
  · intro missing
    cases missing.symm.trans given

theorem grants_iff_zero (missing : emptyCells? evaluation = none) :
    Grants evaluation policy ↔ policy = .zero := by
  refine ⟨fun grants => grants.unnamed missing, fun zero => ⟨kind, keys, ?_, fun _ => zero⟩⟩
  intro other known
  cases known.symm.trans missing

end

theorem eq_default_iff :
    some (⟨.zero⟩ : Settings) = some settings ↔ settings.emptyCells = .zero := by
  cases settings
  simp [eq_comm]

theorem keys_of_evaluation? {mark : Mark}
    (read : evaluation? (.table mark entries) = some settings) :
    ∀ name ∈ entries.map Prod.fst, name = "empty_cells" := by
  match entries with
  | [] => exact nofun
  | [(name, item)] =>
    rw [evaluation?] at read
    split at read
    · rename_i known
      exact List.forall_mem_singleton.mpr known
    · cases read
  | _ :: _ :: _ => cases read

theorem evaluation?_eq_some_iff (distinct : evaluation.Distinct) :
    evaluation? evaluation = some settings ↔ Grants evaluation settings.emptyCells := by
  cases evaluation with
  | scalar =>
    refine iff_of_false nofun fun grants => ?_
    rcases grants.kind with kind | kind <;> cases kind
  | text =>
    refine iff_of_false nofun fun grants => ?_
    rcases grants.kind with kind | kind <;> cases kind
  | array items =>
    have keys (entries : Entries) (table : (Item.array items).entries? = some entries) :
        ∀ name ∈ entries.map Prod.fst, name = "empty_cells" := by cases table
    cases items with
    | nil => exact eq_default_iff.trans (grants_iff_zero (.inr rfl) keys rfl).symm
    | cons => exact map_policy?_eq_some_iff.trans (grants_iff_names (.inr rfl) keys rfl).symm
  | table mark held =>
    by_cases only : ∀ name ∈ held.map Prod.fst, name = "empty_cells"
    · have keys (entries : Entries) (table : (Item.table mark held).entries? = some entries) :
          ∀ name ∈ entries.map Prod.fst, name = "empty_cells" := by
        cases table
        exact only
      have unique := (Toml.Item.distinct_table_iff.mp distinct).names
      rcases eq_nil_or_singleton unique only with rfl | ⟨item, rfl⟩
      · exact eq_default_iff.trans (grants_iff_zero (.inl rfl) keys rfl).symm
      · rw [evaluation?, if_pos rfl, map_policy?_eq_some_iff]
        exact (grants_iff_names (.inl rfl) keys rfl).symm
    · refine iff_of_false (fun read => only (keys_of_evaluation? read)) fun grants => ?_
      exact only (grants.keys held rfl)
  | tables latest earlier =>
    have keys (entries : Entries) (table : (Item.tables latest earlier).entries? = some entries) :
        ∀ name ∈ entries.map Prod.fst, name = "empty_cells" := by cases table
    -- The first of the tables under headers is the one that is held last.
    obtain ⟨first, last⟩ : ∃ first, (latest :: earlier).getLast? = some first :=
      ⟨_, List.getLast?_eq_some_getLast (List.cons_ne_nil latest earlier)⟩
    have given : emptyCells? (.tables latest earlier) = some (.table .header first) := by
      change ((latest :: earlier).reverse.map (Item.table .header)).head? = _
      rw [List.head?_map, List.head?_reverse, last, Option.map_some]
    rw [evaluation?, last]
    exact map_policy?_eq_some_iff.trans (grants_iff_names (.inr rfl) keys given).symm

theorem keys_of_ofEntries? (read : ofEntries? root = some settings) :
    ∀ name ∈ root.map Prod.fst, name = "evaluation" := by
  match root with
  | [] => exact nofun
  | [(name, item)] =>
    rw [ofEntries?] at read
    split at read
    · rename_i known
      exact List.forall_mem_singleton.mpr known
    · cases read
  | _ :: _ :: _ => cases read

theorem ofEntries?_eq_some_iff (distinct : Entries.Distinct root) :
    ofEntries? root = some settings ↔ Heeds root settings.emptyCells := by
  by_cases only : ∀ name ∈ root.map Prod.fst, name = "evaluation"
  · rcases eq_nil_or_singleton distinct.names only with rfl | ⟨evaluation, rfl⟩
    · rw [ofEntries?, eq_default_iff]
      exact ⟨fun zero => ⟨only, nofun, fun _ => zero⟩, fun heeds => heeds.absent rfl⟩
    · rw [ofEntries?, if_pos rfl, evaluation?_eq_some_iff (distinct.items _ List.mem_cons_self)]
      constructor
      · intro grants
        refine ⟨only, fun other given => ?_, nofun⟩
        cases given
        exact grants
      · exact fun heeds => heeds.given evaluation rfl
  · exact iff_of_false (fun read => only (keys_of_ofEntries? read)) fun heeds => only heeds.keys

theorem Faulty.not_heeds (faulty : Faulty root) : ¬ Heeds root policy := by
  intro heeds
  cases faulty with
  | key listed stray => exact stray (heeds.keys _ listed)
  | kind given table array =>
    rcases (heeds.given _ given).kind with kind | kind
    · rw [table] at kind
      cases kind
    · rw [array] at kind
      cases kind
  | innerKey given table listed stray =>
    exact stray ((heeds.given _ given).keys _ table _ listed)
  | policy given cells nameless => exact nameless policy ((heeds.given _ given).named _ cells)

theorem exists_heeds (sound : ¬ Faulty root) : ∃ policy, Heeds root policy := by
  have keys : ∀ name ∈ root.map Prod.fst, name = "evaluation" := fun name listed =>
    not_not.mp fun stray => sound (.key listed stray)
  cases given : root.lookup "evaluation" with
  | none =>
    refine ⟨.zero, keys, fun _ found => ?_, fun _ => rfl⟩
    cases given.symm.trans found
  | some evaluation =>
    have kind : evaluation.entries?.isSome ∨ evaluation.elements?.isSome := by
      by_contra neither
      simp only [not_or, Option.not_isSome_iff_eq_none] at neither
      exact sound (.kind given neither.1 neither.2)
    have inner (entries : Entries) (table : evaluation.entries? = some entries) :
        ∀ name ∈ entries.map Prod.fst, name = "empty_cells" := fun name listed =>
      not_not.mp fun stray => sound (.innerKey given table listed stray)
    have heeds {policy : Policy} (grants : Grants evaluation policy) : Heeds root policy := by
      refine ⟨keys, fun other found => ?_, fun absent => ?_⟩
      · cases given.symm.trans found
        exact grants
      · cases given.symm.trans absent
    cases cells : emptyCells? evaluation with
    | none => exact ⟨.zero, heeds ((grants_iff_zero kind inner cells).mpr rfl)⟩
    | some item =>
      by_cases named : ∃ policy : Policy, Names item policy.name
      · obtain ⟨policy, names⟩ := named
        exact ⟨policy, heeds ((grants_iff_names kind inner cells).mpr names)⟩
      · exact absurd (.policy given cells (not_exists.mp named)) sound

theorem ofEntries?_of_faulty (distinct : Entries.Distinct root) (faulty : Faulty root) :
    ofEntries? root = none := by
  cases read : ofEntries? root with
  | none => rfl
  | some settings => exact absurd ((ofEntries?_eq_some_iff distinct).mp read) faulty.not_heeds

section

variable {reader : Reader}

theorem parse_of_root (parsed : reader.entries? text = some root) :
    parse reader text = (ofEntries? root).elim (.error (.malformed (reader.refusal text))) .ok := by
  rw [parse, ofText?, parsed, Option.bind_some]
  cases ofEntries? root <;> rfl

theorem parse_of_none (unparsed : reader.entries? text = none) :
    parse reader text = .error (.malformed (reader.refusal text)) := by
  rw [parse, ofText?, unparsed, Option.bind_none]

theorem parse_cases (reader : Reader) (text : String) : reader.entries? text = none ∨
    (∃ root, reader.entries? text = some root ∧ Faulty root) ∨
      ∃ root policy, reader.entries? text = some root ∧ Heeds root policy := by
  cases parsed : reader.entries? text with
  | none => exact .inl rfl
  | some root =>
    by_cases faulty : Faulty root
    · exact .inr (.inl ⟨root, rfl, faulty⟩)
    · obtain ⟨policy, heeds⟩ := exists_heeds faulty
      exact .inr (.inr ⟨root, policy, rfl, heeds⟩)

variable (distinct : reader.Distinct)

include distinct

theorem parse_of_heeds (parsed : reader.entries? text = some root) (heeds : Heeds root policy) :
    parse reader text = .ok ⟨policy⟩ := by
  have read : ofEntries? root = some ⟨policy⟩ :=
    (ofEntries?_eq_some_iff (distinct text root parsed)).mpr heeds
  rw [parse_of_root parsed, read, Option.elim_some]

theorem parse_of_faulty (parsed : reader.entries? text = some root) (faulty : Faulty root) :
    parse reader text = .error (.malformed (reader.refusal text)) := by
  rw [parse_of_root parsed, ofEntries?_of_faulty (distinct text root parsed) faulty,
    Option.elim_none]

theorem parse_eq_ok_iff : parse reader text = .ok settings ↔
    ∃ root, reader.entries? text = some root ∧ Heeds root settings.emptyCells := by
  refine ⟨fun read => ?_, fun ⟨root, parsed, heeds⟩ => parse_of_heeds distinct parsed heeds⟩
  rcases parse_cases reader text with
    unparsed | ⟨root, parsed, faulty⟩ | ⟨root, policy, parsed, heeds⟩
  · cases (parse_of_none unparsed).symm.trans read
  · cases (parse_of_faulty distinct parsed faulty).symm.trans read
  · cases (parse_of_heeds distinct parsed heeds).symm.trans read
    exact ⟨root, parsed, heeds⟩

theorem parse_eq_error_iff {error : SettingsError} : parse reader text = .error error ↔
    error = .malformed (reader.refusal text) ∧
      (reader.entries? text = none ∨ ∃ root, reader.entries? text = some root ∧ Faulty root) := by
  constructor
  · intro read
    rcases parse_cases reader text with
      unparsed | ⟨root, parsed, faulty⟩ | ⟨root, policy, parsed, heeds⟩
    · cases (parse_of_none unparsed).symm.trans read
      exact ⟨rfl, .inl unparsed⟩
    · cases (parse_of_faulty distinct parsed faulty).symm.trans read
      exact ⟨rfl, .inr ⟨root, parsed, faulty⟩⟩
    · cases (parse_of_heeds distinct parsed heeds).symm.trans read
  · rintro ⟨rfl, unparsed | ⟨root, parsed, faulty⟩⟩
    · exact parse_of_none unparsed
    · exact parse_of_faulty distinct parsed faulty

end

variable {refusal : String → String}

theorem distinct_standard (refusal : String → String) : (Reader.standard refusal).Distinct := by
  intro text root parsed
  obtain ⟨_, -, distinct, -⟩ := Toml.holds_of_parse? parsed
  exact distinct

theorem mem_keys_of_has {names : List String} (has : Entries.Has entries (key :: names)) :
    key ∈ entries.map Prod.fst := by
  obtain ⟨found⟩ | ⟨found, _, _⟩ := has
  · exact List.mem_map_of_mem (Entries.mem_of_lookup found)
  · exact List.mem_map_of_mem (Entries.mem_of_lookup found)

theorem has_of_written {statements : List Statement} {names : List String}
    (parsed : Toml.parse? text = some root) (read : statementsOf? text = some statements)
    (written : Written statements names) : Entries.Has root names := by
  obtain ⟨others, read', -, has⟩ := Toml.holds_of_parse? parsed
  cases read.symm.trans read'
  exact has names written

theorem parse_of_stray {statements : List Statement} {names : List String}
    (read : statementsOf? text = some statements) (written : Written statements names)
    (stray : names.head? ≠ some "evaluation") :
    parse (.standard refusal) text = .error (.malformed (refusal text)) := by
  cases parsed : Toml.parse? text with
  | none => exact parse_of_none parsed
  | some root =>
    have has := has_of_written parsed read written
    match names, has, stray with
    | name :: _, has, stray =>
      have faulty : Faulty root := .key (mem_keys_of_has has) fun same => stray (same ▸ rfl)
      exact parse_of_faulty (distinct_standard refusal) parsed faulty

theorem parse_of_inner_stray {statements : List Statement} {name : String} {more : List String}
    (read : statementsOf? text = some statements)
    (written : Written statements ("evaluation" :: name :: more)) (stray : name ≠ "empty_cells")
    (noArray : ∀ root evaluation, Toml.parse? text = some root →
      root.lookup "evaluation" = some evaluation → evaluation.elements? = none) :
    parse (.standard refusal) text = .error (.malformed (refusal text)) := by
  cases parsed : Toml.parse? text with
  | none => exact parse_of_none parsed
  | some root =>
    have refused := parse_of_faulty (distinct_standard refusal) parsed
    obtain _ | ⟨given, member, has⟩ := has_of_written parsed read written
    rename_i inner evaluation
    have array := noArray root evaluation parsed given
    cases table : evaluation.entries? with
    | none => exact refused (.kind given table array)
    | some entries =>
      obtain rfl := Item.eq_of_mem_inner table member
      exact refused (.innerKey given table (mem_keys_of_has has) stray)

def spellings (item : Item) : List (List Statement) :=
  [[.header ⟨[], "evaluation"⟩, .pair ⟨[], "empty_cells"⟩ item],
    [.pair ⟨["evaluation"], "empty_cells"⟩ item],
    [.pair ⟨[], "evaluation"⟩ (.table .closed [("empty_cells", item)])]]

theorem parse_of_spelling {statements : List Statement}
    (read : statementsOf? text = some statements) (spelling : statements ∈ spellings item) :
    parse (.standard refusal) text = .ok settings ↔ Names item settings.emptyCells.name := by
  have parsed : ∃ mark,
      Toml.parse? text = some [("evaluation", .table mark [("empty_cells", item)])] := by
    simp only [spellings, List.mem_cons, List.not_mem_nil, or_false] at spelling
    rcases spelling with rfl | rfl | rfl
    · exact ⟨.header, Toml.parse?_eq_some_iff.mpr ⟨_, _, read, rfl, rfl⟩⟩
    · exact ⟨.dotted, Toml.parse?_eq_some_iff.mpr ⟨_, _, read, rfl, rfl⟩⟩
    · exact ⟨.closed, Toml.parse?_eq_some_iff.mpr ⟨_, _, read, rfl, rfl⟩⟩
  obtain ⟨mark, parsed⟩ := parsed
  have known : (Reader.standard refusal).entries? text = _ := parsed
  rw [parse_of_root known, ← map_policy?_eq_some_iff, ofEntries?, if_pos rfl, evaluation?,
    if_pos rfl]
  cases policy? item <;> simp

/-- A document becomes settings only if all of it is for the settings, whichever way it is read;
    and what it writes anywhere is in the tree that this is decided by. -/
structure PassesNothingOver (refusal : String → String) (text : String) : Prop where
  accepted : ∀ reader : Reader, reader.Distinct → ∀ settings,
    parse reader text = .ok settings ↔
      ∃ root, reader.entries? text = some root ∧ Heeds root settings.emptyCells
  refused : ∀ reader : Reader, reader.Distinct → ∀ error,
    parse reader text = .error error ↔ error = .malformed (reader.refusal text) ∧
      (reader.entries? text = none ∨ ∃ root, reader.entries? text = some root ∧ Faulty root)
  distinct : (Reader.standard refusal).Distinct
  tree : ∀ root, Toml.parse? text = some root → ∃ statements,
    statementsOf? text = some statements ∧ Entries.Distinct root ∧
      ∀ names, Written statements names → Entries.Has root names
  -- One line with another name than `evaluation` in front is too much, wherever it stands.
  stray : ∀ statements names, statementsOf? text = some statements → Written statements names →
    names.head? ≠ some "evaluation" →
      parse (.standard refusal) text = .error (.malformed (refusal text))
  -- So is one that goes on with another name than `empty_cells`, but for items of an array.
  innerStray : ∀ statements name more, statementsOf? text = some statements →
    Written statements ("evaluation" :: name :: more) → name ≠ "empty_cells" →
      (∀ root evaluation, Toml.parse? text = some root →
        root.lookup "evaluation" = some evaluation → evaluation.elements? = none) →
        parse (.standard refusal) text = .error (.malformed (refusal text))
  spelt : ∀ item statements settings, statementsOf? text = some statements →
    statements ∈ spellings item →
      (parse (.standard refusal) text = .ok settings ↔ Names item settings.emptyCells.name)

theorem parse_passes_nothing_over (refusal : String → String) (text : String) :
    PassesNothingOver refusal text where
  accepted _ distinct _ := parse_eq_ok_iff distinct
  refused _ distinct _ := parse_eq_error_iff distinct
  distinct := distinct_standard refusal
  tree _ := Toml.holds_of_parse?
  stray _ _ := parse_of_stray
  innerStray _ _ _ := parse_of_inner_stray
  spelt _ _ _ := parse_of_spelling

def misspelt : String := "[evaluation]\nempty = \"zero\"\n"

theorem rejection_heeded_misspelt_faulty :
    (∃ root, Toml.parse? rejection = some root ∧ Heeds root .reject) ∧
      ∃ root, Toml.parse? misspelt = some root ∧ Faulty root := by
  have distinct := distinct_standard fun _ => ""
  constructor
  · have heeded := parse_passes_nothing_over (fun _ => "") rejection
    exact (heeded.accepted _ distinct ⟨.reject⟩).mp (by decide +kernel)
  · have readable : (Toml.parse? misspelt).isSome := by decide +kernel
    have heeded := parse_passes_nothing_over (fun _ => "") misspelt
    have refused : parse (.standard fun _ => "") misspelt = .error (.malformed "") := by
      decide +kernel
    rcases ((heeded.refused _ distinct _).mp refused).2 with unread | faulty
    · rw [← Option.not_isSome_iff_eq_none] at unread
      exact absurd readable unread
    · exact faulty

end Worksheet.Settings
