import Mathlib.Data.List.Forall2
import Worksheet.Proofs.Grouping

namespace Worksheet.CommandLine

structure Cut (arguments : List String) (pieces : List (List String)) (requests : List Request) :
    Prop where
  whole : pieces.flatten = arguments
  groups : List.Forall₂ Group pieces requests

variable {argument : String} {arguments others first second rest after : List String}
  {pieces pieces' : List (List String)} {request request' : Request}
  {requests requests' : List Request} {options : Options}

theorem grouped_iff_cut : Grouped arguments requests ↔ ∃ pieces, Cut arguments pieces requests := by
  constructor
  · intro grouped
    induction grouped with
    | nil => exact ⟨[], rfl, .nil⟩
    | @cons arguments _ _ _ group _ ih =>
      obtain ⟨pieces, whole, groups⟩ := ih
      exact ⟨arguments :: pieces, congrArg (arguments ++ ·) whole, .cons group groups⟩
  · rintro ⟨pieces, whole, groups⟩
    subst whole
    induction groups with
    | nil => exact .nil
    | cons group _ ih => exact .cons group ih

def Word.operands : Word → Nat
  | .get | .config => 1
  | .help | .flag _ | .other => 0

theorem Group.begins (group : Group arguments request) : ∃ argument operands,
    arguments = argument :: operands ∧ operands.length = (Word.ofArgument argument).operands := by
  cases group with
  | switch listed => exact ⟨_, [], rfl, by rw [word_eq_flag_iff.mpr listed]; rfl⟩
  | @get option label _ spelled _ =>
    exact ⟨option, [label], rfl, by rw [word_eq_get_iff.mpr spelled]; rfl⟩
  | config path => exact ⟨"--config", [path], rfl, rfl⟩
  | assign named text =>
    exact ⟨_, [], rfl, by rw [word_eq_other (head?_of_assignment named text)]; rfl⟩

theorem Group.ne_nil (group : Group arguments request) : arguments ≠ [] := by
  obtain ⟨argument, operands, begins, _⟩ := group.begins
  rw [begins]
  exact List.cons_ne_nil _ _

theorem Group.readRequests_eq (group : Group arguments request) :
    readRequests arguments = .ok (some [request]) := by
  have read := readRequests_group group []
  rw [List.append_nil] at read
  rw [read, readRequests]
  rfl

theorem Group.request_eq (group : Group arguments request) (group' : Group arguments request') :
    request = request' := by
  have read := group.readRequests_eq
  rw [group'.readRequests_eq] at read
  cases read
  rfl

theorem Group.append_inj (group : Group first request) (group' : Group second request')
    (same : first ++ rest = second ++ after) :
    first = second ∧ request = request' ∧ rest = after := by
  obtain ⟨argument, operands, begins, count⟩ := group.begins
  obtain ⟨argument', operands', begins', count'⟩ := group'.begins
  have word : argument = argument' := by
    rw [begins, begins'] at same
    exact List.head_eq_of_cons_eq same
  have size : first.length = second.length := by
    rw [begins, begins', List.length_cons, List.length_cons, count, count', word]
  obtain ⟨equal, left⟩ := List.append_inj same size
  exact ⟨equal, group.request_eq (equal ▸ group'), left⟩

theorem Cut.unique (cut : Cut arguments pieces requests) (cut' : Cut arguments pieces' requests') :
    pieces = pieces' ∧ requests = requests' := by
  obtain ⟨whole, groups⟩ := cut
  obtain ⟨whole', groups'⟩ := cut'
  induction groups generalizing arguments pieces' requests' with
  | nil =>
    cases groups' with
    | nil => exact ⟨rfl, rfl⟩
    | cons group' _ =>
      have empty := List.append_eq_nil_iff.mp (whole'.trans whole.symm)
      exact absurd empty.1 group'.ne_nil
  | cons group _ ih =>
    cases groups' with
    | nil =>
      have empty := List.append_eq_nil_iff.mp (whole.trans whole'.symm)
      exact absurd empty.1 group.ne_nil
    | cons group' groups' =>
      obtain ⟨piece, asked, left⟩ := group.append_inj group' (whole.trans whole'.symm)
      obtain ⟨pieces, requests⟩ := ih rfl left.symm groups'
      exact ⟨by rw [piece, pieces], by rw [asked, requests]⟩

theorem Cut.mem_iff (cut : Cut arguments pieces requests) :
    request ∈ requests ↔ ∃ piece ∈ pieces, Group piece request := by
  have groups := cut.groups
  clear cut
  induction groups with
  | nil => simp
  | @cons piece other _ _ group _ ih =>
    have only : request = other ↔ Group piece request :=
      ⟨fun same => same ▸ group, fun group' => group'.request_eq group⟩
    simp only [List.mem_cons, ih, only, exists_eq_or_imp]

theorem Group.switch_iff (listed : (argument, request) ∈ switches) :
    Group arguments request ↔ ∃ word, (word, request) ∈ switches ∧ arguments = [word] := by
  constructor
  · intro group
    cases group with
    | @switch word _ listed => exact ⟨word, listed, rfl⟩
    | _ => exact absurd listed (by simp [switches])
  · rintro ⟨word, listed, rfl⟩
    exact .switch listed

theorem Cut.switch_iff (cut : Cut arguments pieces requests)
    (listed : (argument, request) ∈ switches) :
    request ∈ requests ↔ ∃ word, (word, request) ∈ switches ∧ [word] ∈ pieces := by
  simp only [cut.mem_iff, Group.switch_iff listed]
  constructor
  · rintro ⟨_, member, word, listed, rfl⟩
    exact ⟨word, listed, member⟩
  · intro ⟨word, listed, member⟩
    exact ⟨_, member, word, listed, rfl⟩

def operandOfConfig? : List String → Option String
  | [option, path] => if option = "--config" then some path else none
  | _ => none

theorem operandOfConfig?_eq_some_iff {path : String} :
    operandOfConfig? arguments = some path ↔ arguments = ["--config", path] := by
  unfold operandOfConfig?
  split
  · simp [and_comm]
  · rename_i other
    simp only [reduceCtorEq, false_iff]
    exact other _ _

theorem Group.operandOfConfig?_eq (group : Group arguments request) :
    operandOfConfig? arguments = request.config? := by
  cases group with
  | switch listed =>
    have without : ∀ switch ∈ switches, operandOfConfig? [switch.1] = switch.2.config? := by decide
    exact without _ listed
  | get spelled _ => rcases spelled with rfl | rfl <;> rfl
  | config path => rfl
  | assign _ text => rfl

theorem Cut.filterMap_config? (cut : Cut arguments pieces requests) :
    requests.filterMap Request.config? = pieces.filterMap operandOfConfig? := by
  have groups := cut.groups
  clear cut
  induction groups with
  | nil => rfl
  | cons group _ ih => simp only [List.filterMap_cons, group.operandOfConfig?_eq, ih]

theorem map_filterMap_eq_filter {α β : Type} {read : α → Option β} {write : β → α}
    (back : ∀ item part, read item = some part → write part = item) (items : List α) :
    (items.filterMap read).map write = items.filter fun item => (read item).isSome := by
  induction items with
  | nil => rfl
  | cons item items ih =>
    cases found : read item with
    | none => simp [found, ih]
    | some part => simp [found, ih, back item part found]

theorem getLast?_filterMap_eq_some_iff {α β : Type} {read : α → Option β} {items : List α}
    {part : β} : (items.filterMap read).getLast? = some part ↔ ∃ before item after,
      items = before ++ item :: after ∧ read item = some part ∧
        ∀ other ∈ after, read other = none := by
  rw [List.getLast?_filterMap, List.findSome?_eq_some_iff]
  constructor
  · intro ⟨after, item, before, split, found, last⟩
    refine ⟨before.reverse, item, after.reverse, ?_, found, ?_⟩
    · rw [List.reverse_eq_iff] at split
      simp [split]
    · intro other member
      exact last other (List.mem_reverse.mp member)
  · intro ⟨before, item, after, split, found, last⟩
    refine ⟨after.reverse, item, before.reverse, ?_, found, ?_⟩
    · simp [split]
    · intro other member
      exact last other (List.mem_reverse.mp member)

theorem Cut.configPath_iff (cut : Cut arguments pieces requests) {path : String} :
    (requests.filterMap Request.config?).getLast? = some path ↔ ∃ before after,
      pieces = before ++ ["--config", path] :: after ∧
        ∀ other, ["--config", other] ∉ after := by
  rw [cut.filterMap_config?, getLast?_filterMap_eq_some_iff]
  simp only [operandOfConfig?_eq_some_iff, Option.eq_none_iff_forall_ne_some, ne_eq]
  constructor
  · rintro ⟨before, _, after, split, rfl, last⟩
    exact ⟨before, after, split, fun other member => last _ member other rfl⟩
  · intro ⟨before, after, split, last⟩
    refine ⟨before, _, after, split, rfl, ?_⟩
    rintro _ member other rfl
    exact last other member

structure Options.Gathers (options : Options) (pieces : List (List String))
    (requests : List Request) : Prop where
  assignments : options.assignments.map (fun (address, text) => Request.assign address text) =
    requests.filter fun request => request.assignment?.isSome
  gets : options.gets.map Request.get = requests.filter fun request => request.get?.isSome
  table : options.table = true ↔ ["-s"] ∈ pieces ∨ ["--show"] ∈ pieces ∨ options.gets = []
  keepGoing : options.keepGoing = true ↔ ["-k"] ∈ pieces ∨ ["--keep-going"] ∈ pieces
  noConfig : options.noConfig = true ↔ ["--no-config"] ∈ pieces
  strictEmpty : options.strictEmpty = true ↔ ["--strict-empty"] ∈ pieces
  configPath : ∀ path, options.configPath = some path ↔ ∃ before after,
    pieces = before ++ ["--config", path] :: after ∧ ∀ other, ["--config", other] ∉ after

theorem Cut.gathers (cut : Cut arguments pieces requests) :
    (Options.ofRequests requests).Gathers pieces requests where
  assignments := by
    refine map_filterMap_eq_filter (fun request entry found => ?_) requests
    cases request with
    | assign address text =>
      cases found
      rfl
    | _ => cases found
  gets := by
    refine map_filterMap_eq_filter (fun request address found => ?_) requests
    cases request with
    | get address =>
      cases found
      rfl
    | _ => cases found
  table := by
    have listed : ("-s", Request.table) ∈ switches := by decide
    simp only [Options.ofRequests, Bool.or_eq_true, List.contains_iff_mem, List.isEmpty_iff,
      cut.switch_iff listed]
    simp [switches, or_assoc]
  keepGoing := by
    have listed : ("-k", Request.keepGoing) ∈ switches := by decide
    simp only [Options.ofRequests, List.contains_iff_mem, cut.switch_iff listed]
    simp [switches]
  noConfig := by
    have listed : ("--no-config", Request.noConfig) ∈ switches := by decide
    simp only [Options.ofRequests, List.contains_iff_mem, cut.switch_iff listed]
    simp [switches]
  strictEmpty := by
    have listed : ("--strict-empty", Request.strictEmpty) ∈ switches := by decide
    simp only [Options.ofRequests, List.contains_iff_mem, cut.switch_iff listed]
    simp [switches]
  configPath := fun _ => cut.configPath_iff

/-- Requests that differ at most in what does not matter: where assignments, reads and switches
    stand among each other, how often a switch is given, and files that a later one replaces. -/
structure Alike (requests requests' : List Request) : Prop where
  assignments : requests.filterMap Request.assignment? = requests'.filterMap Request.assignment?
  gets : requests.filterMap Request.get? = requests'.filterMap Request.get?
  switched : ∀ argument request, (argument, request) ∈ switches →
    (request ∈ requests ↔ request ∈ requests')
  configPath : (requests.filterMap Request.config?).getLast? =
    (requests'.filterMap Request.config?).getLast?

theorem Alike.ofRequests_eq (alike : Alike requests requests') :
    Options.ofRequests requests = Options.ofRequests requests' := by
  have switch : ∀ argument request, (argument, request) ∈ switches →
      requests.contains request = requests'.contains request := by
    intro argument request listed
    rw [Bool.eq_iff_iff, List.contains_iff_mem, List.contains_iff_mem]
    exact alike.switched argument request listed
  simp only [Options.ofRequests, alike.assignments, alike.gets, alike.configPath,
    switch "-s" .table (by decide), switch "-k" .keepGoing (by decide),
    switch "--no-config" .noConfig (by decide), switch "--strict-empty" .strictEmpty (by decide)]

theorem Cut.ofArguments_eq (cut : Cut arguments pieces requests) :
    Options.ofArguments arguments = .ok (some (.ofRequests requests)) :=
  ofArguments_eq_some_iff.mpr ⟨requests, grouped_iff_cut.mpr ⟨pieces, cut⟩, rfl⟩

theorem ofArguments_eq_none_iff : Options.ofArguments arguments = .ok none ↔
    AsksForHelp arguments := by
  rw [← readRequests_eq_none_iff, Options.ofArguments]
  rcases readRequests arguments with error | (- | requests) <;> simp [Except.map]

structure ReadInGroups (arguments : List String) : Prop where
  options : (∃ options, Options.ofArguments arguments = .ok (some options)) ↔
    ∃ pieces requests, Cut arguments pieces requests
  help : Options.ofArguments arguments = .ok none ↔ AsksForHelp arguments
  error : (∃ error, Options.ofArguments arguments = .error error) ↔
    (¬ ∃ pieces requests, Cut arguments pieces requests) ∧ ¬ AsksForHelp arguments
  unique : ∀ pieces pieces' requests requests', Cut arguments pieces requests →
    Cut arguments pieces' requests' → pieces = pieces' ∧ requests = requests'
  gathers : ∀ pieces requests, Cut arguments pieces requests → ∃ options,
    Options.ofArguments arguments = .ok (some options) ∧ options.Gathers pieces requests
  alike : ∀ others pieces pieces' requests requests', Cut arguments pieces requests →
    Cut others pieces' requests' → Alike requests requests' →
      Options.ofArguments arguments = Options.ofArguments others

/-- Arguments are read as the groups that they consist of, in the only way to cut them into groups,
    and nothing of what the groups say is lost. -/
theorem arguments_read_in_groups (arguments : List String) : ReadInGroups arguments := by
  have options : (∃ options, Options.ofArguments arguments = .ok (some options)) ↔
      ∃ pieces requests, Cut arguments pieces requests := by
    constructor
    · intro ⟨options, read⟩
      obtain ⟨requests, grouped, _⟩ := ofArguments_eq_some_iff.mp read
      obtain ⟨pieces, cut⟩ := grouped_iff_cut.mp grouped
      exact ⟨pieces, requests, cut⟩
    · intro ⟨pieces, requests, cut⟩
      exact ⟨_, cut.ofArguments_eq⟩
  refine ⟨options, ofArguments_eq_none_iff, ?_, fun _ _ _ _ cut => cut.unique, ?_, ?_⟩
  · rw [← options, ← ofArguments_eq_none_iff]
    rcases Options.ofArguments arguments with error | (- | options) <;> simp
  · intro pieces requests cut
    exact ⟨_, cut.ofArguments_eq, cut.gathers⟩
  · intro others pieces pieces' requests requests' cut cut' alike
    rw [cut.ofArguments_eq, cut'.ofArguments_eq, alike.ofRequests_eq]

end Worksheet.CommandLine
