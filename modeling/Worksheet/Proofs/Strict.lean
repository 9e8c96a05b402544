import Worksheet.Proofs.Arguments
import Worksheet.Proofs.Entries
import Worksheet.Proofs.Keeping
import Worksheet.Proofs.Printing
import Worksheet.Proofs.Solution

namespace Worksheet.CommandLine

variable {sheet : Sheet} {contents : Contents} {policy : Policy} {fault : Fault}
  {values : Slots Binary64} {assignments : List (Address × String)} {gets : List Address}

-- The inductions over assignments go by the texts that the sheet keeps, which those already made
-- have changed.
theorem overlaid_take_cons {address : Address} {slot : Slot} (place : address.slot? = some slot)
    (contents : Contents) (text : String) (rest : List (Address × String)) (i : Nat) :
    contents.overlaid (((address, text) :: rest).take (i + 1)) =
      (contents.write slot text).overlaid (rest.take i) := by
  rw [List.take_succ_cons, Contents.overlaid_cons place]

theorem assignAll_of_ok (keeps : sheet.Keeps contents policy)
    (inside : ∀ entry ∈ assignments, entry.1.InBounds)
    (fine : ∀ i < assignments.length, ∃ values,
      (contents.overlaid (assignments.take (i + 1))).evaluate policy = .ok values) :
    ∃ next, assignAll sheet assignments = .ok next ∧
      next.Keeps (contents.overlaid assignments) policy := by
  induction assignments generalizing sheet contents with
  | nil =>
    rw [Contents.overlaid_nil]
    exact ⟨sheet, rfl, keeps⟩
  | cons entry rest ih =>
    obtain ⟨address, text⟩ := entry
    obtain ⟨here, later⟩ := List.forall_mem_cons.mp inside
    obtain ⟨slot, place⟩ := Address.exists_slot_of_inBounds here
    obtain ⟨values, evaluated⟩ := fine 0 (Nat.succ_pos _)
    rw [overlaid_take_cons place, List.take_zero, Contents.overlaid_nil] at evaluated
    obtain ⟨next, kept, result⟩ := keeps.setContent place text
    rw [Contents.overlaid_cons place]
    simp only [assignAll, result, evaluated, Except.map, Except.mapError]
    apply ih kept later
    intro i bound
    have next := fine (i + 1) (Nat.succ_lt_succ bound)
    rwa [overlaid_take_cons place] at next

theorem assignAll_of_error (keeps : sheet.Keeps contents policy)
    (inside : ∀ entry ∈ assignments, entry.1.InBounds) {i : Nat} (bound : i < assignments.length)
    (failed : (contents.overlaid (assignments.take (i + 1))).evaluate policy = .error fault)
    (before : ∀ j < i, ∃ values,
      (contents.overlaid (assignments.take (j + 1))).evaluate policy = .ok values) :
    assignAll sheet assignments = .error (about "Setting" assignments[i].1 (.fault fault)) := by
  induction assignments generalizing sheet contents i with
  | nil => cases bound
  | cons entry rest ih =>
    obtain ⟨address, text⟩ := entry
    obtain ⟨here, later⟩ := List.forall_mem_cons.mp inside
    obtain ⟨slot, place⟩ := Address.exists_slot_of_inBounds here
    obtain ⟨next, kept, result⟩ := keeps.setContent place text
    cases i with
    | zero =>
      rw [overlaid_take_cons place, List.take_zero, Contents.overlaid_nil] at failed
      simp only [assignAll, result, failed, Except.map, Except.mapError, List.getElem_cons_zero]
    | succ i =>
      obtain ⟨values, evaluated⟩ := before 0 (Nat.succ_pos i)
      rw [overlaid_take_cons place, List.take_zero, Contents.overlaid_nil] at evaluated
      rw [overlaid_take_cons place] at failed
      simp only [assignAll, result, evaluated, Except.map, Except.mapError,
        List.getElem_cons_succ]
      apply ih kept later _ failed
      intro j less
      have earlier := before (j + 1) (Nat.succ_lt_succ less)
      rwa [overlaid_take_cons place] at earlier

theorem readAll_of_ok (keeps : sheet.Keeps contents policy)
    (evaluated : contents.evaluate policy = .ok values)
    (inside : ∀ address ∈ gets, address.InBounds) :
    ∃ next, readAll sheet gets = (gets.map (contents.shown policy), .ok next) ∧
      next.Keeps contents policy := by
  induction gets generalizing sheet with
  | nil => exact ⟨sheet, rfl, keeps⟩
  | cons address rest ih =>
    obtain ⟨here, later⟩ := List.forall_mem_cons.mp inside
    obtain ⟨next, kept, result⟩ := keeps.getValue_of_ok evaluated here
    obtain ⟨last, others, stays⟩ := ih kept later
    refine ⟨last, ?_, stays⟩
    simp only [readAll, result, others, List.map_cons]

theorem showTable_of_ok (keeps : sheet.Keeps contents policy)
    (evaluated : contents.evaluate policy = .ok values) (options : Options) :
    showTable sheet options = .ok (if options.table then
      tableLines (addressRows.map (List.map (contents.shown policy))) else []) := by
  obtain ⟨next, _, result⟩ := keeps.values_of_ok evaluated
  unfold showTable
  split
  · simp only [result, map_addressRows, Vector.toList_ofFn, List.map_ofFn, Function.comp_def]
  · rfl

def NeverFails (policy : Policy) (assignments : List (Address × String)) : Prop :=
  ∀ i < assignments.length, (gridAfter policy (assignments.take (i + 1))).recalculate.1 = .ok ()

structure FailsFirst (policy : Policy) (assignments : List (Address × String)) (i : Nat)
    (fault : Fault) : Prop where
  bound : i < assignments.length
  failed : (gridAfter policy (assignments.take (i + 1))).recalculate.1 = .error fault
  before : ∀ j < i, (gridAfter policy (assignments.take (j + 1))).recalculate.1 = .ok ()

theorem neverFails_or_failsFirst (policy : Policy) (assignments : List (Address × String)) :
    NeverFails policy assignments ∨ ∃ i fault, FailsFirst policy assignments i fault := by
  rcases first_error_cases fun i : Fin assignments.length =>
      (gridAfter policy (assignments.take (i + 1))).recalculate.1 with
    ⟨_, fine⟩ | ⟨i, fault, failed, before⟩
  · exact .inl fun i bound => fine ⟨i, bound⟩
  · refine .inr ⟨i, fault, i.isLt, failed, ?_⟩
    intro j less
    obtain ⟨_, fine⟩ := before ⟨j, Nat.lt_trans less i.isLt⟩ less
    exact fine

theorem FailsFirst.not_neverFails {i : Nat} (first : FailsFirst policy assignments i fault) :
    ¬ NeverFails policy assignments := by
  intro fine
  have failed := first.failed
  rw [fine i first.bound] at failed
  cases failed

theorem recalculate_gridAfter_eq_ok_iff : (gridAfter policy assignments).recalculate.1 = .ok () ↔
    ∃ values, (Contents.blank.overlaid assignments).evaluate policy = .ok values := by
  rw [gridAfter, Grid.recalculate_eq_ok_iff, ← Contents.listed_eq_overlaid]
  rfl

theorem recalculate_gridAfter_eq_error_iff :
    (gridAfter policy assignments).recalculate.1 = .error fault ↔
      (Contents.blank.overlaid assignments).evaluate policy = .error fault := by
  rw [gridAfter, Grid.recalculate_eq_error_iff, ← Contents.listed_eq_overlaid]
  rfl

theorem evaluate_blank (policy : Policy) : ∃ values, Contents.blank.evaluate policy = .ok values := by
  refine Contents.exists_evaluate_iff.mpr fun slot => ⟨.zero, ?_⟩
  exact Contents.resolve_of_holds (Contents.holds_of_empty (Contents.read_blank slot)) policy

theorem NeverFails.evaluate (fine : NeverFails policy assignments) :
    ∃ values, (Contents.blank.overlaid assignments).evaluate policy = .ok values := by
  cases count : assignments.length with
  | zero =>
    rw [List.length_eq_zero_iff.mp count, Contents.overlaid_nil]
    exact evaluate_blank policy
  | succ n =>
    have last := fine n (count ▸ Nat.lt_succ_self n)
    rw [← count, List.take_length] at last
    exact recalculate_gridAfter_eq_ok_iff.mp last

theorem NeverFails.assigned (fine : NeverFails policy assignments)
    (inside : ∀ entry ∈ assignments, entry.1.InBounds) :
    ∃ sheet values, assignAll (.empty policy) assignments = .ok sheet ∧
      sheet.Keeps (.listed assignments) policy ∧
      (Contents.listed assignments).evaluate policy = .ok values := by
  obtain ⟨values, evaluated⟩ := fine.evaluate
  obtain ⟨sheet, assigned, keeps⟩ := assignAll_of_ok (Sheet.keeps_empty policy) inside
    fun i bound => recalculate_gridAfter_eq_ok_iff.mp (fine i bound)
  rw [← Contents.listed_eq_overlaid] at keeps evaluated
  exact ⟨sheet, values, assigned, keeps, evaluated⟩

theorem FailsFirst.stopped {i : Nat} (first : FailsFirst policy assignments i fault)
    (inside : ∀ entry ∈ assignments, entry.1.InBounds) :
    ∃ address text, assignments[i]? = some (address, text) ∧
      assignAll (.empty policy) assignments = .error (about "Setting" address (.fault fault)) := by
  refine ⟨_, _, List.getElem?_eq_getElem first.bound, ?_⟩
  apply assignAll_of_error (Sheet.keeps_empty policy) inside first.bound
  · exact recalculate_gridAfter_eq_error_iff.mp first.failed
  · exact fun j less => recalculate_gridAfter_eq_ok_iff.mp (first.before j less)

theorem runStrict_of_ok {options : Options} (inside : options.Inside)
    (fine : NeverFails policy options.assignments) :
    runStrict (.empty policy) options =
      ⟨page ((Contents.listed options.assignments).shown policy) options.gets options.table,
        [], 0⟩ := by
  obtain ⟨sheet, values, assigned, keeps, evaluated⟩ := fine.assigned inside.assignments
  obtain ⟨next, got, kept⟩ := readAll_of_ok keeps evaluated inside.gets
  have shown := showTable_of_ok kept evaluated options
  simp only [runStrict, assigned, got, shown, page]

theorem runStrict_of_error {options : Options} {text : String}
    (stopped : assignAll (.empty policy) options.assignments = .error text) :
    runStrict (.empty policy) options = ⟨[], [.error text], 1⟩ := by
  simp only [runStrict, stopped]

structure AllOrNothing (policy : Policy) (options : Options) (warning : Option String)
    (outcome : Outcome) : Prop where
  exits : outcome.code = 0 ↔ NeverFails policy options.assignments
  fails : outcome.code ≠ 0 → outcome.code = 1 ∧ outcome.stdout = "" ∧
    ∃ i fault address text, FailsFirst policy options.assignments i fault ∧
      options.assignments[i]? = some (address, text) ∧
      outcome.stderr = warningText warning ++
        ("Error: Setting " ++ address.text ++ ": " ++ fault.message ++ "\n")
  reads : ∀ sheet, assignAll (.empty policy) options.assignments = .ok sheet →
    outcome.code = 0 ∧ outcome.stderr = warningText warning ∧
      ∃ lines next table, readAll sheet options.gets = (lines, .ok next) ∧
        showTable next options = .ok table
  prints : outcome.code = 0 → outcome.stdout =
    written (page ((Contents.listed options.assignments).shown policy) options.gets options.table)
  lines : outcome.code = 0 → ∃ sheet texts header body,
    assignAll (.empty policy) options.assignments = .ok sheet ∧
      (∀ address, address.InBounds → (sheet.getValue address).1 = .ok (texts address)) ∧
      (∀ address ∈ options.gets, address.InBounds) ∧
      linesOf outcome.stdout =
        options.gets.map texts ++ (if options.table then header :: body else []) ∧
      body.length = rows ∧
      ∀ row : Fin rows, ∃ line, body[row.val]? = some line ∧ (fieldsOf line).length = cols + 1 ∧
        ∀ col : Fin cols, (fieldsOf line)[col.val + 1]? = some (texts ⟨col, row⟩)

theorem allOrNothing_of_neverFails {options : Options} (inside : options.Inside)
    (warning : Option String) (fine : NeverFails policy options.assignments) :
    AllOrNothing policy options warning ((runStrict (.empty policy) options).warned warning) := by
  obtain ⟨sheet, values, assigned, keeps, evaluated⟩ := fine.assigned inside.assignments
  rw [runStrict_of_ok inside fine]
  constructor
  · exact iff_of_true rfl fine
  · exact fun failed => absurd rfl failed
  · intro other same
    rw [assigned, Except.ok.injEq] at same
    subst same
    obtain ⟨next, got, kept⟩ := readAll_of_ok keeps evaluated inside.gets
    refine ⟨rfl, ?_, _, next, _, got, showTable_of_ok kept evaluated options⟩
    rw [stderr_warned]
    exact String.append_empty
  · exact fun _ => rfl
  · intro _
    -- No shown text has a tab or a line end, so the lines and fields are the ones put together.
    have inked := (Contents.listed options.assignments).inked_shown policy
    refine ⟨sheet, (Contents.listed options.assignments).shown policy, heading, _, assigned, ?_,
      inside.gets, linesOf_page inked _ _, List.length_ofFn, ?_⟩
    · intro address within
      obtain ⟨next, _, shown⟩ := keeps.getValue_of_ok evaluated within
      rw [shown]
    · intro row
      refine ⟨tabbed (rowFields _ row), by rw [List.getElem?_ofFn, dif_pos row.isLt], ?_, ?_⟩
      · rw [fieldsOf_row inked, rowFields, List.length_cons, List.length_ofFn]
      · intro col
        rw [fieldsOf_row inked, getElem?_rowFields]

theorem error_setting (label message : String) :
    "Error: " ++ ("Setting" ++ " " ++ label ++ ": " ++ message) ++ "\n" =
      "Error: Setting " ++ label ++ ": " ++ message ++ "\n" := by
  have opening : "Error: " ++ "Setting" ++ " " = "Error: Setting " := by decide
  simp only [← String.append_assoc]
  rw [opening]

theorem stderr_of_setting (address : Address) (fault : Fault) (printed : List String) (code : Nat) :
    (Outcome.mk printed [.error (about "Setting" address (.fault fault))] code).stderr =
      "Error: Setting " ++ address.text ++ ": " ++ fault.message ++ "\n" := by
  rw [Outcome.stderr, List.flatMap_singleton, Report.lines, written_singleton, about]
  exact error_setting address.text fault.message

theorem allOrNothing_of_failsFirst {options : Options} (inside : options.Inside)
    (warning : Option String) {i : Nat} (first : FailsFirst policy options.assignments i fault) :
    AllOrNothing policy options warning ((runStrict (.empty policy) options).warned warning) := by
  obtain ⟨address, text, found, stopped⟩ := first.stopped inside.assignments
  rw [runStrict_of_error stopped]
  constructor
  · exact iff_of_false Nat.one_ne_zero first.not_neverFails
  · intro _
    refine ⟨rfl, rfl, i, fault, address, text, first, found, ?_⟩
    rw [stderr_warned, stderr_of_setting]
  · intro sheet assigned
    rw [stopped] at assigned
    cases assigned
  · exact fun code => absurd code Nat.one_ne_zero
  · exact fun code => absurd code Nat.one_ne_zero

theorem runOptions_eq (reader : Toml.Reader) (files : FileSystem) (options : Options) :
    runOptions reader files options =
      (if options.keepGoing then
        runOnwards (.empty (policyFor options (settingsFor reader files options).1)) options
      else
        runStrict (.empty (policyFor options (settingsFor reader files options).1))
          options).warned (settingsFor reader files options).2 := by
  unfold runOptions Outcome.warned
  rfl

theorem run_of_parsed {arguments : List String} {options : Options}
    (parsed : Options.ofArguments arguments = .ok (some options)) (reader : Toml.Reader)
    (files : FileSystem) : run reader files arguments = runOptions reader files options := by
  simp only [run, parsed]

/-- A strict run prints nothing unless the sheet has values after every assignment, and names the
    first assignment after which it has not. -/
theorem strict_run_all_or_nothing {arguments : List String} {options : Options}
    (parsed : Options.ofArguments arguments = .ok (some options))
    (strict : options.keepGoing = false) :
    (∀ policy, AllOrNothing policy options none (runStrict (.empty policy) options)) ∧
      ∀ reader files, AllOrNothing (policyFor options (settingsFor reader files options).1) options
        (settingsFor reader files options).2 (run reader files arguments) := by
  have inside := Options.inside_of_arguments parsed
  have always : ∀ policy warning,
      AllOrNothing policy options warning ((runStrict (.empty policy) options).warned warning) := by
    intro policy warning
    rcases neverFails_or_failsFirst policy options.assignments with fine | ⟨i, fault, first⟩
    · exact allOrNothing_of_neverFails inside warning fine
    · exact allOrNothing_of_failsFirst inside warning first
  constructor
  · exact fun policy => always policy none
  · intro reader files
    rw [run_of_parsed parsed, runOptions_eq, strict, if_neg Bool.false_ne_true]
    exact always _ _

def stopping : Options where
  assignments := [(⟨0, 0⟩, "1"), (⟨1, 0⟩, "=A0"), (⟨0, 0⟩, "x")]
  gets := [⟨1, 0⟩]
  table := false
  keepGoing := false
  configPath := none
  noConfig := false
  strictEmpty := false

theorem stopping_all_or_nothing :
    Options.ofArguments ["A0=1", "B0==A0", "A0=x", "-g", "B0"] = .ok (some stopping) ∧
      stopping.keepGoing = false ∧
      (∀ policy, AllOrNothing policy stopping none (runStrict (.empty policy) stopping)) ∧
      ∀ reader files, AllOrNothing (policyFor stopping (settingsFor reader files stopping).1) stopping
        (settingsFor reader files stopping).2
        (run reader files ["A0=1", "B0==A0", "A0=x", "-g", "B0"]) := by
  have parsed : Options.ofArguments ["A0=1", "B0==A0", "A0=x", "-g", "B0"] = .ok (some stopping) := by
    decide +kernel
  exact ⟨parsed, rfl, strict_run_all_or_nothing parsed rfl⟩

end Worksheet.CommandLine
