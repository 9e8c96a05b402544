import Worksheet.Proofs.Onwards

namespace Worksheet.CommandLine

variable {policy : Policy} {options : Options}

theorem failureCount_eq_zero_iff {assignments : List (Address × String)} :
    failureCount policy assignments = 0 ↔ NeverFails policy assignments := by
  rw [failureCount, List.countP_eq_zero]
  refine forall_congr' fun i => ?_
  rw [List.mem_range, Option.not_isSome_iff_eq_none, fault?_eq_none_iff]

theorem runOnwards_eq_runStrict (inside : options.Inside)
    (fine : NeverFails policy options.assignments) :
    runOnwards (.empty policy) options = runStrict (.empty policy) options := by
  have silent := (messages_eq_nil_iff policy options.assignments (readCount options)).mpr
    (failureCount_eq_zero_iff.mpr fine)
  rw [runStrict_of_ok inside fine, runOnwards_eq inside, silent]
  rfl

theorem runOnwards_agrees (policy : Policy) (inside : options.Inside) :
    runOnwards (.empty policy) options = runStrict (.empty policy) options ∨
      (runOnwards (.empty policy) options).code = 1 ∧
        (runStrict (.empty policy) options).code = 1 := by
  rcases neverFails_or_failsFirst policy options.assignments with fine | ⟨i, fault, first⟩
  · exact .inl (runOnwards_eq_runStrict inside fine)
  · have count : 0 < failureCount policy options.assignments := by
      rw [Nat.pos_iff_ne_zero, ne_eq, failureCount_eq_zero_iff]
      exact first.not_neverFails
    obtain ⟨address, text, _, stopped⟩ := first.stopped inside.assignments
    refine .inr ⟨(accounted policy inside).exits.1.mpr count, ?_⟩
    rw [runStrict_of_error stopped]

theorem run_keepGoing_of_no_options {arguments : List String}
    (unparsed : ∀ options, Options.ofArguments arguments ≠ .ok (some options))
    (reader : Toml.Reader) (files : FileSystem) :
    run reader files ("-k" :: arguments) = run reader files arguments := by
  rw [run, run, ofArguments_keepGoing]
  cases read : Options.ofArguments arguments with
  | error error => rfl
  | ok options? =>
    cases options? with
    | none => rfl
    | some options => exact absurd read (unparsed options)

theorem runOnwards_keepGoing (sheet : Sheet) (options : Options) :
    runOnwards sheet { options with keepGoing := true } = runOnwards sheet options := by
  obtain ⟨assignments, gets, table, keepGoing, configPath, noConfig, strictEmpty⟩ := options
  rw [runOnwards, runOnwards]

theorem runOptions_keepGoing (reader : Toml.Reader) (files : FileSystem) (options : Options) :
    runOptions reader files { options with keepGoing := true } =
      (runOnwards (.empty (policyFor options (settingsFor reader files options).1)) options).warned
        (settingsFor reader files options).2 := by
  have settings : settingsFor reader files { options with keepGoing := true } =
      settingsFor reader files options := rfl
  have policy (settings : Settings) : policyFor { options with keepGoing := true } settings =
      policyFor options settings := rfl
  rw [runOptions_eq, if_pos rfl, settings, policy, runOnwards_keepGoing]

theorem runOptions_agrees (reader : Toml.Reader) (files : FileSystem) (inside : options.Inside) :
    runOptions reader files { options with keepGoing := true } = runOptions reader files options ∨
      (runOptions reader files { options with keepGoing := true }).code = 1 ∧
        (runOptions reader files options).code = 1 := by
  rw [runOptions_keepGoing, runOptions_eq]
  cases options.keepGoing with
  | true => exact .inl (by rw [if_pos rfl])
  | false =>
    rw [if_neg Bool.false_ne_true]
    rcases runOnwards_agrees (policyFor options (settingsFor reader files options).1) inside with
      same | codes
    · exact .inl (by rw [same])
    · exact .inr codes

/-- Going on after errors makes no difference to how a run ends, nor to what it prints and reports
    if it ends well. -/
theorem run_keepGoing_agrees (reader : Toml.Reader) (files : FileSystem) (arguments : List String) :
    let strict := run reader files arguments
    let onwards := run reader files ("-k" :: arguments)
    onwards.code = strict.code ∧
      (strict.code = 0 → onwards.stdout = strict.stdout ∧ onwards.stderr = strict.stderr) ∧
      ((∀ options, Options.ofArguments arguments ≠ .ok (some options)) → onwards = strict) := by
  intro strict onwards
  by_cases parses : ∃ options, Options.ofArguments arguments = .ok (some options)
  · obtain ⟨options, parsed⟩ := parses
    have parsedOnwards : Options.ofArguments ("-k" :: arguments) =
        .ok (some { options with keepGoing := true }) := by
      rw [ofArguments_keepGoing, parsed]
      rfl
    have ranStrict : strict = runOptions reader files options :=
      run_of_parsed parsed reader files
    have ranOnwards : onwards = runOptions reader files { options with keepGoing := true } :=
      run_of_parsed parsedOnwards reader files
    refine ⟨?_, ?_, fun unparsed => absurd parsed (unparsed options)⟩
    · rw [ranStrict, ranOnwards]
      rcases runOptions_agrees reader files (Options.inside_of_arguments parsed) with
        same | ⟨one, also⟩
      · rw [same]
      · rw [one, also]
    · intro fine
      rw [ranStrict] at fine ⊢
      rw [ranOnwards]
      rcases runOptions_agrees reader files (Options.inside_of_arguments parsed) with
        same | ⟨_, one⟩
      · rw [same]
        exact ⟨rfl, rfl⟩
      · rw [fine] at one
        cases one
  · have same := run_keepGoing_of_no_options (not_exists.mp parses) reader files
    exact ⟨congrArg Outcome.code same,
      fun _ => ⟨congrArg Outcome.stdout same, congrArg Outcome.stderr same⟩, fun _ => same⟩

end Worksheet.CommandLine
