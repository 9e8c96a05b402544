import Worksheet.Proofs.Strict

namespace Worksheet.CommandLine

variable {table : Table (Array String)} {contents : Contents} {policy : Policy} {fault : Fault}
  {values : Slots Binary64} {assignments : List (Address × String)} {address : Address}
  {gets : List Address} {slot : Slot}

def complaints (contents : Contents) (policy : Policy) (count : Nat) : List String :=
  match contents.evaluate policy with
  | .ok _ => []
  | .error fault => List.replicate count fault.message

theorem complaints_of_ok (evaluated : contents.evaluate policy = .ok values) (count : Nat) :
    complaints contents policy count = [] := by
  simp only [complaints, evaluated]

theorem complaints_of_error (evaluated : contents.evaluate policy = .error fault) (count : Nat) :
    complaints contents policy count = List.replicate count fault.message := by
  simp only [complaints, evaluated]

theorem complaints_zero (contents : Contents) (policy : Policy) :
    complaints contents policy 0 = [] := by
  unfold complaints
  split <;> rfl

theorem complaints_add (contents : Contents) (policy : Policy) (first second : Nat) :
    complaints contents policy (first + second) =
      complaints contents policy first ++ complaints contents policy second := by
  unfold complaints
  split
  · rfl
  · exact List.replicate_add ..

theorem shown_of_error (evaluated : contents.evaluate policy = .error fault) :
    contents.shown policy = fun _ => "" := by
  funext address
  simp only [Contents.shown, evaluated]

structure Told (table : Table (Array String)) (contents : Contents) (policy : Policy)
    (messages : List String) : Prop where
  keeps : table.sheet.Keeps contents policy
  told : table.sink.toList = messages

variable {messages : List String}

theorem Told.valueAt (told : Told table contents policy messages) (inside : address.InBounds) :
    ∃ next, table.valueAt address = (contents.shown policy address, next) ∧
      Told next contents policy (messages ++ complaints contents policy 1) := by
  cases evaluated : contents.evaluate policy with
  | ok values =>
    obtain ⟨next, keeps, result⟩ := told.keeps.getValue_of_ok evaluated inside
    refine ⟨{ table with sheet := next }, ?_, keeps, ?_⟩
    · simp only [Table.valueAt, Table.absorb, result]
    · simp only [complaints, evaluated, told.told, List.append_nil]
  | error fault =>
    obtain ⟨next, keeps, result⟩ := told.keeps.getValue_of_error evaluated inside
    refine ⟨⟨next, table.sink.push fault.message⟩, ?_, keeps, ?_⟩
    · simp only [Table.valueAt, Table.absorb, result, Contents.shown, evaluated]
      rfl
    · simp only [complaints, evaluated, Array.toList_push, told.told]
      rfl

theorem Told.readCells (told : Told table contents policy messages)
    (inside : ∀ address ∈ gets, address.InBounds) :
    ∃ next, readCells table gets = (gets.map (contents.shown policy), next) ∧
      Told next contents policy (messages ++ complaints contents policy gets.length) := by
  induction gets generalizing table messages with
  | nil =>
    rw [List.length_nil, complaints_zero, List.append_nil]
    exact ⟨table, rfl, told⟩
  | cons address rest ih =>
    obtain ⟨here, later⟩ := List.forall_mem_cons.mp inside
    obtain ⟨next, read, toldNext⟩ := told.valueAt here
    obtain ⟨last, others, toldLast⟩ := ih toldNext later
    refine ⟨last, ?_, ?_⟩
    · simp only [CommandLine.readCells, read, others, List.map_cons]
    · rwa [List.append_assoc, ← complaints_add, Nat.add_comm] at toldLast

theorem Told.readRows {parts : List (List Address)} (told : Told table contents policy messages)
    (inside : ∀ addresses ∈ parts, ∀ address ∈ addresses, address.InBounds) :
    ∃ next, readRows table parts = (parts.map (List.map (contents.shown policy)), next) ∧
      Told next contents policy
        (messages ++ complaints contents policy parts.flatten.length) := by
  induction parts generalizing table messages with
  | nil =>
    rw [List.flatten_nil, List.length_nil, complaints_zero, List.append_nil]
    exact ⟨table, rfl, told⟩
  | cons addresses rest ih =>
    obtain ⟨here, later⟩ := List.forall_mem_cons.mp inside
    obtain ⟨next, read, toldNext⟩ := told.readCells here
    obtain ⟨last, others, toldLast⟩ := ih toldNext later
    refine ⟨last, ?_, ?_⟩
    · simp only [CommandLine.readRows, read, others, List.map_cons]
    · rwa [List.append_assoc, ← complaints_add, ← List.length_append, ← List.flatten_cons]
        at toldLast

def failuresFrom (contents : Contents) (policy : Policy) (assignments : List (Address × String)) :
    List Fault :=
  (List.range assignments.length).filterMap fun i =>
    (Grid.ofContents policy (contents.overlaid (assignments.take (i + 1)))).fault?

theorem failuresFrom_cons (place : address.slot? = some slot) (contents : Contents)
    (policy : Policy) (text : String) (rest : List (Address × String)) :
    failuresFrom contents policy ((address, text) :: rest) =
      (Grid.ofContents policy (contents.write slot text)).fault?.toList ++
        failuresFrom (contents.write slot text) policy rest := by
  simp only [failuresFrom, List.length_cons, List.range_succ_eq_map, List.filterMap_cons,
    overlaid_take_cons place, List.take_zero, Contents.overlaid_nil, List.filterMap_map]
  cases (Grid.ofContents policy (contents.write slot text)).fault? with
  | none => simp
  | some fault => simp

theorem failures_eq (policy : Policy) (assignments : List (Address × String)) :
    failures policy assignments = failuresFrom .blank policy assignments := by
  simp only [failures, failuresFrom, gridAfter, Contents.listed_eq_overlaid]

theorem fault?_eq_none_iff {grid : Grid} : grid.fault? = none ↔
    grid.recalculate.1 = .ok () := by
  unfold Grid.fault?
  cases grid.recalculate.1 with
  | ok => exact iff_of_true rfl rfl
  | error => exact iff_of_false (Option.some_ne_none _) nofun

theorem fault?_eq_some_iff {grid : Grid} : grid.fault? = some fault ↔
    grid.recalculate.1 = .error fault := by
  unfold Grid.fault?
  cases grid.recalculate.1 with
  | ok => exact iff_of_false (Option.some_ne_none _).symm nofun
  | error => rw [Option.some.injEq, Except.error.injEq]

theorem Told.setValueAt (told : Told table contents policy messages)
    (place : address.slot? = some slot) (text : String) :
    Told (table.setValueAt address text) (contents.write slot text) policy
      (messages ++ (Grid.ofContents policy (contents.write slot text)).fault?.toList.map
        Fault.message) := by
  obtain ⟨next, keeps, result⟩ := told.keeps.setContent place text
  cases evaluated : (contents.write slot text).evaluate policy with
  | ok values =>
    simp only [evaluated, Except.map, Except.mapError] at result
    simp only [Table.setValueAt, Table.absorb, result]
    have none : (Grid.ofContents policy (contents.write slot text)).fault? = none :=
      fault?_eq_none_iff.mpr (Grid.recalculate_eq_ok_iff.mpr ⟨values, evaluated⟩)
    rw [none]
    exact ⟨keeps, by simp [told.told]⟩
  | error fault =>
    simp only [evaluated, Except.map, Except.mapError] at result
    simp only [Table.setValueAt, Table.absorb, result]
    have some : (Grid.ofContents policy (contents.write slot text)).fault? = some fault :=
      fault?_eq_some_iff.mpr (Grid.recalculate_eq_error_iff.mpr evaluated)
    refine ⟨keeps, ?_⟩
    rw [some]
    simp only [MessageSink.send, Array.toList_push, told.told]
    rfl

theorem Told.writeCells (told : Told table contents policy messages)
    (inside : ∀ entry ∈ assignments, entry.1.InBounds) :
    Told (writeCells table assignments) (contents.overlaid assignments) policy
      (messages ++ (failuresFrom contents policy assignments).map Fault.message) := by
  induction assignments generalizing table contents messages with
  | nil =>
    rw [Contents.overlaid_nil]
    exact ⟨told.keeps, by simp [CommandLine.writeCells, failuresFrom, told.told]⟩
  | cons entry rest ih =>
    obtain ⟨address, text⟩ := entry
    obtain ⟨here, later⟩ := List.forall_mem_cons.mp inside
    obtain ⟨slot, place⟩ := Address.exists_slot_of_inBounds here
    have toldLast := ih (told.setValueAt place text) later
    rwa [List.append_assoc, ← List.map_append, ← failuresFrom_cons place,
      ← Contents.overlaid_cons place] at toldLast

theorem inside_addressRows :
    ∀ addresses ∈ addressRows, ∀ address ∈ addresses, address.InBounds := by
  intro addresses member address within
  obtain ⟨row, inRows, same⟩ := List.mem_map.mp member
  subst same
  obtain ⟨col, inCols, same⟩ := List.mem_map.mp within
  subst same
  exact ⟨List.mem_range.mp inRows, List.mem_range.mp inCols⟩

theorem runOnwards_eq {options : Options} (inside : options.Inside) (policy : Policy) :
    let contents := Contents.listed options.assignments
    let messages := (failures policy options.assignments).map Fault.message ++
      complaints contents policy (readCount options)
    runOnwards (.empty policy) options =
      ⟨page (contents.shown policy) options.gets options.table, messages.map Report.error,
        if messages.isEmpty then 0 else 1⟩ := by
  intro contents messages
  have start : Told ⟨Sheet.empty policy, #[]⟩ .blank policy [] := ⟨Sheet.keeps_empty policy, rfl⟩
  have wrote := start.writeCells inside.assignments
  rw [← failures_eq, ← Contents.listed_eq_overlaid, List.nil_append] at wrote
  obtain ⟨next, got, told⟩ := wrote.readCells inside.gets
  cases shown : options.table with
  | false =>
    have said : next.sink.toList = messages := by
      simp [told.told, messages, readCount, shown, contents]
    simp only [runOnwards, got, shown, page, Bool.false_eq_true, if_false]
    rw [said, ← Array.isEmpty_toList, said]
  | true =>
    obtain ⟨last, drawn, toldLast⟩ := told.readRows inside_addressRows
    have cells : addressRows.flatten.length = rows * cols := by decide
    have said : last.sink.toList = messages := by
      rw [toldLast.told, List.append_assoc, ← complaints_add, cells]
      simp [messages, readCount, shown, contents]
    simp only [runOnwards, got, drawn, shown, page, if_true]
    rw [said, ← Array.isEmpty_toList, said]

theorem length_failures (policy : Policy) (assignments : List (Address × String)) :
    (failures policy assignments).length = failureCount policy assignments := by
  rw [failures, failureCount, List.length_filterMap_eq_countP]

theorem failures_concat (policy : Policy) (before : List (Address × String))
    (entry : Address × String) :
    failures policy (before ++ [entry]) =
      failures policy before ++ (gridAfter policy (before ++ [entry])).fault?.toList := by
  have whole : (before ++ [entry]).take (before.length + 1) = before ++ [entry] :=
    List.take_of_length_le (by simp)
  have parts : ∀ i ∈ List.range before.length,
      (gridAfter policy ((before ++ [entry]).take (i + 1))).fault? =
        (gridAfter policy (before.take (i + 1))).fault? := by
    intro i inside
    rw [List.take_append_of_le_length (List.mem_range.mp inside)]
  rw [failures, List.length_append, List.length_singleton, List.range_succ, List.filterMap_append,
    List.filterMap_congr parts, failures]
  cases last : (gridAfter policy (before ++ [entry])).fault? with
  | none => simp [whole, last]
  | some fault => simp [whole, last]

theorem last_of_failure (failed : (gridAfter policy assignments).recalculate.1 = .error fault) :
    ∃ before last, assignments = before ++ [last] ∧
      failures policy assignments = failures policy before ++ [fault] := by
  rcases List.eq_nil_or_concat assignments with empty | ⟨before, last, same⟩
  · subst empty
    obtain ⟨values, evaluated⟩ := evaluate_blank policy
    rw [recalculate_gridAfter_eq_error_iff, Contents.overlaid_nil, evaluated] at failed
    cases failed
  · rw [List.concat_eq_append] at same
    subst same
    refine ⟨before, last, rfl, ?_⟩
    rw [failures_concat, fault?_eq_some_iff.mpr failed]
    rfl

theorem toList_sink_writeCells (inside : ∀ entry ∈ assignments, entry.1.InBounds)
    (policy : Policy) :
    (writeCells ⟨.empty policy, #[]⟩ assignments : Table (Array String)).sink.toList =
      (failures policy assignments).map Fault.message := by
  have start : Told ⟨Sheet.empty policy, #[]⟩ .blank policy [] := ⟨Sheet.keeps_empty policy, rfl⟩
  rw [(start.writeCells inside).told, failures_eq, List.nil_append]

theorem recalculate_gridAfter_of_error
    (evaluated : (Contents.listed assignments).evaluate policy = .error fault) :
    (gridAfter policy assignments).recalculate.1 = .error fault := by
  rw [recalculate_gridAfter_eq_error_iff, ← Contents.listed_eq_overlaid]
  exact evaluated

theorem evaluate_of_settled (settled : (gridAfter policy assignments).recalculate.1 = .ok () ∨
      assignments = []) :
    ∃ values, (Contents.listed assignments).evaluate policy = .ok values := by
  rw [Contents.listed_eq_overlaid]
  rcases settled with fine | none
  · exact recalculate_gridAfter_eq_ok_iff.mp fine
  · rw [none, Contents.overlaid_nil]
    exact evaluate_blank policy

theorem messages_eq_nil_iff (policy : Policy) (assignments : List (Address × String))
    (count : Nat) :
    (failures policy assignments).map Fault.message ++
        complaints (.listed assignments) policy count = [] ↔
      failureCount policy assignments = 0 := by
  rw [← length_failures, List.length_eq_zero_iff]
  cases evaluated : (Contents.listed assignments).evaluate policy with
  | ok values => rw [complaints_of_ok evaluated, List.append_nil, List.map_eq_nil_iff]
  | error fault =>
    -- Reads fail only if the last assignment did.
    obtain ⟨before, last, _, told⟩ := last_of_failure (recalculate_gridAfter_of_error evaluated)
    simp [told]

structure Accounted (policy : Policy) (options : Options) (outcome : Outcome) : Prop where
  settled : (gridAfter policy options.assignments).recalculate.1 = .ok () ∨
      options.assignments = [] →
    outcome.reports.length = failureCount policy options.assignments
  unsettled : ∀ fault, (gridAfter policy options.assignments).recalculate.1 = .error fault →
    outcome.reports.length = failureCount policy options.assignments + readCount options ∧
      ∃ before last written,
        options.assignments = before ++ [last] ∧
        written = (writeCells ⟨.empty policy, #[]⟩ before : Table (Array String)).sink.push
          fault.message ∧
        (writeCells ⟨.empty policy, #[]⟩ options.assignments).sink = written ∧
        outcome.reports = (written.toList ++
          List.replicate (readCount options) fault.message).map Report.error ∧
        outcome.printed = page (fun _ => "") options.gets options.table
  exits : (outcome.code = 1 ↔ 0 < failureCount policy options.assignments) ∧
    (outcome.code = 0 ↔ failureCount policy options.assignments = 0)
  prints : outcome.printed =
    page ((Contents.listed options.assignments).shown policy) options.gets options.table
  agrees : ∀ arguments other, Options.ofArguments arguments = .ok (some other) →
    other.gets = options.gets → other.table = options.table →
    Contents.listed other.assignments = Contents.listed options.assignments →
      (runOnwards (.empty policy) other).stdout = outcome.stdout

theorem accounted (policy : Policy) {options : Options} (inside : options.Inside) :
    Accounted policy options (runOnwards (.empty policy) options) := by
  have ran := runOnwards_eq inside policy
  constructor
  · intro settled
    obtain ⟨values, evaluated⟩ := evaluate_of_settled settled
    rw [ran, complaints_of_ok evaluated]
    simp [length_failures]
  · intro fault failed
    obtain ⟨before, last, same, told⟩ := last_of_failure failed
    have insideBefore : ∀ entry ∈ before, entry.1.InBounds := by
      intro entry member
      exact inside.assignments entry (same ▸ List.mem_append_left _ member)
    have evaluated := recalculate_gridAfter_eq_error_iff.mp failed
    rw [← Contents.listed_eq_overlaid] at evaluated
    have written : (writeCells ⟨.empty policy, #[]⟩ options.assignments : Table (Array String)).sink =
        (writeCells ⟨.empty policy, #[]⟩ before : Table (Array String)).sink.push fault.message := by
      rw [← Array.toList_inj, Array.toList_push, toList_sink_writeCells inside.assignments,
        toList_sink_writeCells insideBefore, told, List.map_append]
      rfl
    rw [ran]
    refine ⟨?_, before, last, _, same, rfl, written, ?_, ?_⟩
    · rw [complaints_of_error evaluated]
      simp [length_failures]
    · rw [← written, toList_sink_writeCells inside.assignments, complaints_of_error evaluated]
    · rw [shown_of_error evaluated]
  · have silent := messages_eq_nil_iff policy options.assignments (readCount options)
    rw [← List.isEmpty_iff] at silent
    rw [ran, Nat.pos_iff_ne_zero, ne_eq, ← silent]
    split <;> simp_all
  · rw [ran]
  · intro arguments other parsed gets table same
    rw [ran, runOnwards_eq (Options.inside_of_arguments parsed)]
    simp only [Outcome.stdout, gets, table, same]

/-- A run that goes on after errors sends a message for every assignment after which the sheet
    cannot be recalculated, and if it cannot be at the end, that message again for every read. -/
theorem onwards_run_accounted {arguments : List String} {options : Options}
    (parsed : Options.ofArguments arguments = .ok (some options))
    (onwards : options.keepGoing = true) :
    (∀ policy, Accounted policy options (runOnwards (.empty policy) options)) ∧
      ∀ reader files, run reader files arguments =
        (runOnwards (.empty (policyFor options (settingsFor reader files options).1))
          options).warned (settingsFor reader files options).2 := by
  constructor
  · exact fun policy => accounted policy (Options.inside_of_arguments parsed)
  · intro reader files
    rw [run_of_parsed parsed, runOptions_eq, onwards, if_pos rfl]

def breaking : Options where
  assignments := [(⟨0, 0⟩, "x"), (⟨0, 0⟩, "4"), (⟨2, 1⟩, "=Z9")]
  gets := [⟨1, 0⟩]
  table := true
  keepGoing := true
  configPath := none
  noConfig := false
  strictEmpty := false

theorem breaking_accounted :
    Options.ofArguments ["-k", "A0=x", "A0=4", "C1==Z9", "-g", "B0", "-s"] =
        .ok (some breaking) ∧
      breaking.keepGoing = true ∧
      (∀ policy, Accounted policy breaking (runOnwards (.empty policy) breaking)) ∧
      ∀ reader files, run reader files ["-k", "A0=x", "A0=4", "C1==Z9", "-g", "B0", "-s"] =
        (runOnwards (.empty (policyFor breaking (settingsFor reader files breaking).1))
          breaking).warned (settingsFor reader files breaking).2 := by
  have parsed : Options.ofArguments ["-k", "A0=x", "A0=4", "C1==Z9", "-g", "B0", "-s"] =
      .ok (some breaking) := by decide +kernel
  exact ⟨parsed, rfl, onwards_run_accounted parsed rfl⟩

end Worksheet.CommandLine
