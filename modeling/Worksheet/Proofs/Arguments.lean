import Worksheet.CommandLine.Options

namespace Worksheet.CommandLine

def Request.Inside : Request → Prop
  | .get address | .assign address _ => address.InBounds
  | _ => True

structure Options.Inside (options : Options) : Prop where
  assignments : ∀ entry ∈ options.assignments, entry.1.InBounds
  gets : ∀ address ∈ options.gets, address.InBounds

variable {label argument : String} {arguments : List String} {address : Address}
  {request : Request} {requests : List Request} {options : Options}

theorem addressOf_inBounds (read : addressOf label = .ok address) : address.InBounds := by
  unfold addressOf at read
  split at read
  · rename_i found
    cases read
    exact Address.ofChars?_inBounds found
  · cases read

theorem assignmentOf_inside (read : assignmentOf argument = .ok request) : request.Inside := by
  unfold assignmentOf at read
  split at read
  · rename_i label text _
    cases named : addressOf label with
    | ok address =>
      rw [named] at read
      cases read
      exact addressOf_inBounds named
    | error error =>
      rw [named] at read
      cases read
  · cases read

theorem Word.flag_inside (word : Word.ofArgument argument = .flag request) : request.Inside := by
  unfold Word.ofArgument at word
  split at word <;> cases word <;> trivial

theorem eq_cons_of_map {first : Request} {rest : Except UsageError (Option (List Request))}
    (read : rest.map (·.map (first :: ·)) = .ok (some requests)) :
    ∃ others, rest = .ok (some others) ∧ requests = first :: others := by
  rcases rest with error | others?
  · cases read
  · rcases others? with - | others
    · cases read
    · cases read
      exact ⟨others, rfl, rfl⟩

theorem cons_inside {first : Request} {rest : Except UsageError (Option (List Request))}
    (read : rest.map (·.map (first :: ·)) = .ok (some requests)) (head : first.Inside)
    (tail : ∀ {others}, rest = .ok (some others) → ∀ request ∈ others, request.Inside) :
    ∀ request ∈ requests, request.Inside := by
  obtain ⟨others, fine, same⟩ := eq_cons_of_map read
  subst same
  exact List.forall_mem_cons.mpr ⟨head, tail fine⟩

theorem readRequests_inside (read : readRequests arguments = .ok (some requests)) :
    ∀ request ∈ requests, request.Inside := by
  fun_induction readRequests arguments generalizing requests with
  | case1 =>
    cases read
    exact fun _ member => absurd member List.not_mem_nil
  | case2 | case4 | case6 | case8 => cases read
  | case3 _ _ _ word ih => exact cons_inside read (Word.flag_inside word) ih
  | case5 _ _ label _ ih =>
    cases named : addressOf label with
    | ok address =>
      rw [named] at read
      exact cons_inside read (addressOf_inBounds named) ih
    | error error =>
      rw [named] at read
      cases read
  | case7 _ _ _ _ ih => exact cons_inside read trivial ih
  | case9 argument _ _ _ ih =>
    cases given : assignmentOf argument with
    | ok request =>
      rw [given] at read
      exact cons_inside read (assignmentOf_inside given) ih
    | error error =>
      rw [given] at read
      cases read

theorem Options.inside_of_arguments (parsed : ofArguments arguments = .ok (some options)) :
    options.Inside := by
  unfold ofArguments at parsed
  cases read : readRequests arguments with
  | error error =>
    rw [read] at parsed
    cases parsed
  | ok requests? =>
    rw [read] at parsed
    cases requests? with
    | none => cases parsed
    | some requests =>
      cases parsed
      have inside := readRequests_inside read
      constructor
      · intro entry member
        obtain ⟨request, given, same⟩ := List.mem_filterMap.mp member
        cases request with
        | assign address text =>
          cases same
          exact inside _ given
        | _ => cases same
      · intro address member
        obtain ⟨request, given, same⟩ := List.mem_filterMap.mp member
        cases request with
        | get address =>
          cases same
          exact inside _ given
        | _ => cases same

theorem readRequests_flag (word : Word.ofArgument argument = .flag request)
    (rest : List String) :
    readRequests (argument :: rest) = (readRequests rest).map (·.map (request :: ·)) := by
  rw [readRequests.eq_def]
  simp only [word]

theorem ofRequests_keepGoing (requests : List Request) :
    Options.ofRequests (.keepGoing :: requests) =
      { Options.ofRequests requests with keepGoing := true } := by
  have assigned : Request.keepGoing.assignment? = none := rfl
  have got : Request.keepGoing.get? = none := rfl
  have configured : Request.keepGoing.config? = none := rfl
  simp [Options.ofRequests, assigned, got, configured]

theorem ofArguments_keepGoing (arguments : List String) :
    Options.ofArguments ("-k" :: arguments) =
      (Options.ofArguments arguments).map (·.map fun options =>
        { options with keepGoing := true }) := by
  have switch : Word.ofArgument "-k" = .flag .keepGoing := rfl
  rw [Options.ofArguments, readRequests_flag switch, Options.ofArguments]
  cases readRequests arguments with
  | error error => rfl
  | ok requests? =>
    cases requests? with
    | none => rfl
    | some requests => exact congrArg (Except.ok ∘ some) (ofRequests_keepGoing requests)

end Worksheet.CommandLine
