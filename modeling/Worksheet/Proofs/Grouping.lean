import Worksheet.CommandLine.Group
import Worksheet.Proofs.Arguments

namespace Worksheet

theorem Address.chars_of_ofText? {label : String} {address : Address}
    (named : ofText? label = some address) :
    ∃ letter ∈ columnLetters, ∃ digit, label.toList = [letter, digit] ∧ digit ∈ rowDigits := by
  unfold ofText? ofChars? at named
  split at named
  · rename_i letter digit chars
    simp only [Option.bind_eq_bind, Option.bind_eq_some_iff, Option.some.injEq] at named
    obtain ⟨col, hasLetter, row, hasDigit, _⟩ := named
    have isLetter : letter ∈ columnLetters := List.isSome_idxOf?.mp (hasLetter ▸ rfl)
    have isDigit : digit ∈ rowDigits := List.isSome_idxOf?.mp (hasDigit ▸ rfl)
    exact ⟨letter, isLetter, digit, chars, isDigit⟩
  · cases named

namespace CommandLine

variable {argument label text : String} {arguments others : List String} {address : Address}
  {request : Request} {requests : List Request}

theorem word_eq_flag_iff :
    Word.ofArgument argument = .flag request ↔ (argument, request) ∈ switches := by
  constructor
  · intro word
    unfold Word.ofArgument at word
    split at word <;> cases word <;> decide
  · have flags : ∀ switch ∈ switches, Word.ofArgument switch.1 = .flag switch.2 := by decide
    exact flags (argument, request)

theorem word_eq_get_iff :
    Word.ofArgument argument = .get ↔ argument = "-g" ∨ argument = "--get" := by
  constructor
  · intro word
    unfold Word.ofArgument at word
    split at word <;> cases word <;> decide
  · rintro (rfl | rfl) <;> rfl

theorem word_eq_config_iff : Word.ofArgument argument = .config ↔ argument = "--config" := by
  constructor
  · intro word
    unfold Word.ofArgument at word
    split at word <;> cases word
    rfl
  · rintro rfl
    rfl

theorem word_eq_help_iff : Word.ofArgument argument = .help ↔
    argument = "-h" ∨ argument = "--help" := by
  constructor
  · intro word
    unfold Word.ofArgument at word
    split at word <;> cases word <;> decide
  · rintro (rfl | rfl) <;> rfl

theorem word_eq_other (noDash : argument.toList.head? ≠ some '-') :
    Word.ofArgument argument = .other := by
  unfold Word.ofArgument
  split
  all_goals first | rfl | exact absurd (by decide) noDash

theorem splitAssignment?_eq_some_iff : splitAssignment? argument = some (label, text) ↔
    argument = label ++ "=" ++ text ∧ '=' ∉ label.toList := by
  constructor
  · intro split
    have whole := @List.takeWhile_append_dropWhile _ (· ≠ '=') argument.toList
    have first := List.head?_dropWhile_not (· ≠ '=') argument.toList
    have before := List.all_eq_true.mp (@List.all_takeWhile _ (· ≠ '=') argument.toList)
    unfold splitAssignment? at split
    cases rest : argument.toList.dropWhile (· ≠ '=') with
    | nil =>
      rw [rest] at split
      cases split
    | cons c content =>
      rw [rest] at split whole first
      cases split
      have sign : c = '=' := by simpa using first
      subst sign
      refine ⟨?_, ?_⟩
      · simp only [← String.toList_inj, String.toList_append, String.toList_ofList,
          List.append_assoc]
        exact whole.symm
      · intro member
        rw [String.toList_ofList] at member
        exact of_decide_eq_true (before _ member) rfl
  · intro ⟨same, absent⟩
    subst same
    have before : ∀ c ∈ label.toList, decide (c ≠ '=') = true := by
      intro c member
      rw [decide_eq_true_iff]
      exact fun sign => absent (sign ▸ member)
    have chars : (label ++ "=" ++ text).toList = label.toList ++ '=' :: text.toList := by simp
    unfold splitAssignment?
    rw [chars, List.dropWhile_append_of_pos before, List.takeWhile_append_of_pos before,
      List.dropWhile_cons_of_neg (by decide), List.takeWhile_cons_of_neg (by decide)]
    simp

theorem addressOf_eq_ok_iff : addressOf label = .ok address ↔
    Address.ofText? label = some address := by
  unfold addressOf
  cases Address.ofText? label <;> simp

theorem assignmentOf_eq_ok_iff : assignmentOf argument = .ok request ↔
    ∃ label address text, Address.ofText? label = some address ∧
      argument = label ++ "=" ++ text ∧ request = .assign address text := by
  constructor
  · intro read
    unfold assignmentOf at read
    cases parts : splitAssignment? argument with
    | none =>
      rw [parts] at read
      cases read
    | some split =>
      obtain ⟨label, text⟩ := split
      rw [parts] at read
      cases named : addressOf label with
      | error error =>
        simp only [named] at read
        cases read
      | ok address =>
        simp only [named] at read
        cases read
        exact ⟨label, address, text, addressOf_eq_ok_iff.mp named,
          (splitAssignment?_eq_some_iff.mp parts).1, rfl⟩
  · rintro ⟨label, address, text, named, rfl, rfl⟩
    obtain ⟨letter, isLetter, digit, chars, isDigit⟩ := Address.chars_of_ofText? named
    have noSign : '=' ∉ label.toList := by
      intro member
      rw [chars, List.mem_cons, List.mem_singleton] at member
      rcases member with same | same
      · exact absurd (same ▸ isLetter) (by decide)
      · exact absurd (same ▸ isDigit) (by decide)
    simp only [assignmentOf, splitAssignment?_eq_some_iff.mpr ⟨rfl, noSign⟩,
      addressOf_eq_ok_iff.mpr named]
    rfl

theorem head?_of_assignment (named : Address.ofText? label = some address) (text : String) :
    (label ++ "=" ++ text).toList.head? ≠ some '-' := by
  obtain ⟨letter, isLetter, digit, chars, _⟩ := Address.chars_of_ofText? named
  intro dash
  simp only [String.toList_append, chars, List.cons_append, List.head?_cons,
    Option.some.injEq] at dash
  exact absurd (dash ▸ isLetter) (by decide)

theorem readRequests_group (group : Group arguments request) (others : List String) :
    readRequests (arguments ++ others) = (readRequests others).map (·.map (request :: ·)) := by
  cases group with
  | switch listed => exact readRequests_flag (word_eq_flag_iff.mpr listed) others
  | get spelled named =>
    rw [List.cons_append, List.cons_append, readRequests.eq_def]
    simp only [word_eq_get_iff.mpr spelled, addressOf_eq_ok_iff.mpr named]
    rfl
  | config path =>
    rw [List.cons_append, List.cons_append, readRequests.eq_def]
    simp only [word_eq_config_iff.mpr rfl]
    rfl
  | assign named text =>
    have noDash := head?_of_assignment named text
    rw [List.cons_append, readRequests.eq_def]
    simp only [word_eq_other noDash, noDash, if_false,
      assignmentOf_eq_ok_iff.mpr ⟨_, _, _, named, rfl, rfl⟩]
    rfl

theorem AsksForHelp.cons (group : Group arguments request) (asks : AsksForHelp others) :
    AsksForHelp (arguments ++ others) := by
  obtain ⟨before, requests, word, after, same, grouped, help⟩ := asks
  subst same
  exact ⟨arguments ++ before, request :: requests, word, after, (List.append_assoc _ _ _).symm,
    .cons group grouped, help⟩

inductive Ends (arguments : List String) : Prop where
  | grouped (requests : List Request) (groups : Grouped arguments requests)
  | help (asks : AsksForHelp arguments)
  | error (error : UsageError) (failed : readRequests arguments = .error error)

theorem Ends.cons (group : Group arguments request) (ends : Ends others) :
    Ends (arguments ++ others) := by
  cases ends with
  | grouped requests groups => exact .grouped (request :: requests) (.cons group groups)
  | help asks => exact .help (asks.cons group)
  | error error failed =>
    refine .error error ?_
    rw [readRequests_group group, failed]
    rfl

theorem ends_of_arguments (arguments : List String) : Ends arguments := by
  fun_induction readRequests arguments with
  | case1 => exact .grouped [] .nil
  | case2 word after help => exact .help ⟨[], [], word, after, rfl, .nil, word_eq_help_iff.mp help⟩
  | case3 _ _ _ word ih => exact ih.cons (.switch (word_eq_flag_iff.mp word))
  | case4 _ word =>
    exact .error .getWithoutCell (by
      rw [readRequests.eq_def]
      simp only [word])
  | case5 option word label _ ih =>
    cases named : addressOf label with
    | error error =>
      refine .error error ?_
      rw [readRequests.eq_def]
      simp only [word, named]
      rfl
    | ok address => exact ih.cons (.get (word_eq_get_iff.mp word) (addressOf_eq_ok_iff.mp named))
  | case6 _ word =>
    exact .error .configWithoutPath (by
      rw [readRequests.eq_def]
      simp only [word])
  | case7 _ word path _ ih =>
    have option := word_eq_config_iff.mp word
    subst option
    exact ih.cons (.config path)
  | case8 option _ word dash =>
    exact .error (.unknownOption option) (by
      rw [readRequests.eq_def]
      simp only [word, dash, if_true])
  | case9 argument _ word noDash ih =>
    cases given : assignmentOf argument with
    | error error =>
      refine .error error ?_
      rw [readRequests.eq_def]
      simp only [word, noDash, given]
      rfl
    | ok request =>
      obtain ⟨label, address, text, named, whole, assigned⟩ := assignmentOf_eq_ok_iff.mp given
      subst whole
      exact ih.cons (.assign named text)

theorem readRequests_grouped (grouped : Grouped arguments requests) (rest : List String) :
    readRequests (arguments ++ rest) = (readRequests rest).map (·.map (requests ++ ·)) := by
  induction grouped with
  | nil =>
    rw [List.nil_append]
    rcases readRequests rest with error | (- | requests) <;> rfl
  | cons group _ ih =>
    rw [List.append_assoc, readRequests_group group, ih]
    rcases readRequests rest with error | (- | requests) <;> rfl

theorem readRequests_of_grouped (grouped : Grouped arguments requests) :
    readRequests arguments = .ok (some requests) := by
  have read := readRequests_grouped grouped []
  rw [List.append_nil] at read
  rw [read, readRequests]
  exact congrArg (Except.ok ∘ some) (List.append_nil requests)

theorem readRequests_of_asksForHelp (asks : AsksForHelp arguments) :
    readRequests arguments = .ok none := by
  obtain ⟨before, requests, word, after, same, grouped, help⟩ := asks
  have stopped : readRequests (word :: after) = .ok none := by
    rw [readRequests.eq_def]
    simp only [word_eq_help_iff.mpr help]
  rw [same, readRequests_grouped grouped, stopped]
  rfl

theorem readRequests_eq_some_iff :
    readRequests arguments = .ok (some requests) ↔ Grouped arguments requests := by
  constructor
  · intro read
    cases ends_of_arguments arguments with
    | grouped others groups =>
      rw [readRequests_of_grouped groups] at read
      cases read
      exact groups
    | help asks =>
      rw [readRequests_of_asksForHelp asks] at read
      cases read
    | error error failed =>
      rw [failed] at read
      cases read
  · exact readRequests_of_grouped

theorem readRequests_eq_none_iff : readRequests arguments = .ok none ↔ AsksForHelp arguments := by
  constructor
  · intro read
    cases ends_of_arguments arguments with
    | grouped requests groups =>
      rw [readRequests_of_grouped groups] at read
      cases read
    | help asks => exact asks
    | error error failed =>
      rw [failed] at read
      cases read
  · exact readRequests_of_asksForHelp

theorem ofArguments_eq_some_iff {options : Options} :
    Options.ofArguments arguments = .ok (some options) ↔
      ∃ requests, Grouped arguments requests ∧ options = .ofRequests requests := by
  simp only [← readRequests_eq_some_iff, Options.ofArguments]
  cases readRequests arguments with
  | error error => simp [Except.map]
  | ok requests? =>
    cases requests? with
    | none => simp [Except.map]
    | some requests =>
      simp only [Except.map, Option.map_some, Except.ok.injEq, Option.some.injEq,
        exists_eq_left']
      exact eq_comm

end CommandLine

end Worksheet
