import Worksheet.Proofs.Grouping
import Worksheet.Proofs.Strict

namespace Worksheet

namespace Settings

variable (reader : Toml.Reader) {files others : FileSystem} {path : String}
  (same : files.lookup path = others.lookup path)

include same

theorem read_congr : read reader files path = read reader others path := by
  rw [read, read, FileSystem.readText, FileSystem.readText, same]

theorem load_congr : load reader files (some path) = load reader others (some path) := by
  have chosen (files : FileSystem) : chosen? files (some path) = some path := rfl
  rw [load, load, chosen, chosen]
  dsimp only
  rw [FileSystem.has, FileSystem.has, same, read_congr reader same]

end Settings

namespace CommandLine

variable {files others : FileSystem} {options : Options} {arguments : List String}
  {requests : List Request}

theorem noConfig_ofRequests_iff :
    (Options.ofRequests requests).noConfig = true ↔ .noConfig ∈ requests :=
  List.contains_iff_mem

theorem strictEmpty_ofRequests_iff :
    (Options.ofRequests requests).strictEmpty = true ↔ .strictEmpty ∈ requests :=
  List.contains_iff_mem

theorem configPath_ofRequests_last (before : List Request) (path : String) {after : List Request}
    (last : ∀ other, .config other ∉ after) :
    (Options.ofRequests (before ++ .config path :: after)).configPath = some path := by
  have noMore : after.filterMap Request.config? = [] := by
    rw [List.filterMap_eq_nil_iff]
    intro request member
    cases request with
    | config other => exact absurd member (last other)
    | _ => rfl
  have mine : (Request.config path).config? = some path := rfl
  simp only [Options.ofRequests, List.filterMap_append, List.filterMap_cons_some mine, noMore,
    List.getLast?_concat]

theorem settingsFor_of_noConfig (ignored : options.noConfig = true) (reader : Toml.Reader)
    (files : FileSystem) : settingsFor reader files options = (default, none) := by
  rw [settingsFor, if_pos ignored]

theorem settingsFor_of_configPath (reader : Toml.Reader) {path : String}
    (given : options.configPath = some path) (same : files.lookup path = others.lookup path) :
    settingsFor reader files options = settingsFor reader others options := by
  unfold settingsFor
  rw [given, Settings.load_congr reader same]

theorem runOptions_congr {reader : Toml.Reader}
    (same : settingsFor reader files options = settingsFor reader others options) :
    runOptions reader files options = runOptions reader others options := by
  rw [runOptions_eq, runOptions_eq, same]

theorem exists_errors_runStrict (sheet : Sheet) (options : Options) :
    ∃ errors : List String, (runStrict sheet options).reports = errors.map Report.error := by
  unfold runStrict
  split
  · exact ⟨[_], rfl⟩
  · split
    · exact ⟨[_], rfl⟩
    · split
      · exact ⟨[], rfl⟩
      · exact ⟨[_], rfl⟩

structure AlikeButWarnings (left right : Outcome) : Prop where
  stdout : left.stdout = right.stdout
  code : left.code = right.code
  reports : ∃ (warning other : Option String) (errors : List String),
    left.reports = warning.toList.map Report.warning ++ errors.map Report.error ∧
      right.reports = other.toList.map Report.warning ++ errors.map Report.error

theorem alikeButWarnings_warned {outcome : Outcome} {errors : List String}
    (reported : outcome.reports = errors.map Report.error) (warning other : Option String) :
    AlikeButWarnings (outcome.warned warning) (outcome.warned other) where
  stdout := rfl
  code := rfl
  reports := ⟨warning, other, errors, by rw [Outcome.warned, reported],
    by rw [Outcome.warned, reported]⟩

theorem alikeButWarnings_of_strictEmpty (strict : options.strictEmpty = true)
    (reader : Toml.Reader) (files others : FileSystem) :
    AlikeButWarnings (runOptions reader files options) (runOptions reader others options) := by
  -- The switch settles the policy, so the settings are read for their warning only.
  have settled : ∀ settings, policyFor options settings = .reject := fun settings => if_pos strict
  rw [runOptions_eq, runOptions_eq, settled, settled]
  split
  · exact alikeButWarnings_warned rfl _ _
  · obtain ⟨errors, reported⟩ := exists_errors_runStrict (.empty .reject) options
    exact alikeButWarnings_warned reported _ _

theorem run_of_not_parsed (unread : ∀ options, Options.ofArguments arguments ≠ .ok (some options))
    (reader : Toml.Reader) (files others : FileSystem) :
    run reader files arguments = run reader others arguments := by
  unfold run
  split
  · rfl
  · rfl
  · rename_i options parsed
    exact absurd parsed (unread options)

structure Isolated (requests : List Request) (reader : Toml.Reader) (arguments : List String)
    (files others : FileSystem) : Prop where
  noConfig : .noConfig ∈ requests → run reader files arguments = run reader others arguments
  strictEmpty : .strictEmpty ∈ requests →
    AlikeButWarnings (run reader files arguments) (run reader others arguments)
  config : ∀ before path after, requests = before ++ .config path :: after →
    (∀ other, .config other ∉ after) → files.lookup path = others.lookup path →
    run reader files arguments = run reader others arguments

/-- The files matter only to arguments that consist of groups, and to these as far as their
    requests allow it. -/
theorem run_isolated (reader : Toml.Reader) (files others : FileSystem) (arguments : List String) :
    ((∃ options, Options.ofArguments arguments = .ok (some options)) ↔
      ∃ requests, Grouped arguments requests) ∧
    (∀ requests, Grouped arguments requests → Isolated requests reader arguments files others) ∧
    ((∀ options, Options.ofArguments arguments ≠ .ok (some options)) →
      run reader files arguments = run reader others arguments) := by
  refine ⟨?_, ?_, fun unread => run_of_not_parsed unread reader files others⟩
  · constructor
    · rintro ⟨options, parsed⟩
      obtain ⟨requests, grouped, _⟩ := ofArguments_eq_some_iff.mp parsed
      exact ⟨requests, grouped⟩
    · rintro ⟨requests, grouped⟩
      exact ⟨.ofRequests requests, ofArguments_eq_some_iff.mpr ⟨requests, grouped, rfl⟩⟩
  · intro requests grouped
    have runs := run_of_parsed (ofArguments_eq_some_iff.mpr ⟨requests, grouped, rfl⟩)
    constructor
    · intro ignored
      rw [runs, runs]
      apply runOptions_congr
      have off := noConfig_ofRequests_iff.mpr ignored
      rw [settingsFor_of_noConfig off, settingsFor_of_noConfig off]
    · intro strict
      rw [runs, runs]
      exact alikeButWarnings_of_strictEmpty (strictEmpty_ofRequests_iff.mpr strict) reader
        files others
    · intro before path after parts last same
      subst parts
      rw [runs, runs]
      exact runOptions_congr (settingsFor_of_configPath reader
        (configPath_ofRequests_last before path last) same)

theorem operand_isolated :
    Grouped ["--config", "--no-config", "--strict-empty", "B0==A0"]
        [.config "--no-config", .strictEmpty, .assign ⟨1, 0⟩ "=A0"] ∧
      ∀ (reader : Toml.Reader) (files others : FileSystem),
        AlikeButWarnings (run reader files ["--config", "--no-config", "--strict-empty", "B0==A0"])
          (run reader others ["--config", "--no-config", "--strict-empty", "B0==A0"]) ∧
        (files.lookup "--no-config" = others.lookup "--no-config" →
          run reader files ["--config", "--no-config", "--strict-empty", "B0==A0"] =
            run reader others ["--config", "--no-config", "--strict-empty", "B0==A0"]) := by
  have grouped : Grouped ["--config", "--no-config", "--strict-empty", "B0==A0"]
      [.config "--no-config", .strictEmpty, .assign ⟨1, 0⟩ "=A0"] :=
    readRequests_eq_some_iff.mp (by decide +kernel)
  refine ⟨grouped, fun reader files others => ?_⟩
  obtain ⟨_, isolated, _⟩ := run_isolated reader files others
    ["--config", "--no-config", "--strict-empty", "B0==A0"]
  refine ⟨(isolated _ grouped).strictEmpty (by decide), ?_⟩
  exact (isolated _ grouped).config [] "--no-config" _ rfl (by simp)

end CommandLine

end Worksheet
