import Worksheet.Settings.Load

namespace Worksheet

theorem fromUTF8?_eq_some_iff {bytes : ByteArray} {text : String} :
    String.fromUTF8? bytes = some text ↔ bytes = text.toUTF8 := by
  unfold String.fromUTF8?
  constructor
  · intro decoded
    split at decoded
    · cases decoded
      rfl
    · cases decoded
  · rintro rfl
    rw [String.toUTF8_eq_toByteArray, dif_pos text.isValidUTF8]
    rfl

namespace FileSystem

variable {files : FileSystem} {path text : String}

/-- The size that is told of a path is allowed, and what it yields in full is this text. -/
structure Holds (files : FileSystem) (path text : String) : Prop where
  size : ∃ metadata, (files.lookup path).metadata = .ok metadata ∧ metadata.size ≤ 1048576
  contents : (files.lookup path).contents = .ok text.toUTF8

def Regular (files : FileSystem) (path : String) : Prop :=
  ∃ metadata, (files.lookup path).metadata = .ok metadata ∧ metadata.regular = true

def Lacks (files : FileSystem) (path : String) : Prop :=
  (files.lookup path).metadata = .error .noEntry ∨
    (files.lookup path).metadata = .error .notDirectory

theorem Lacks.unknown (lacks : files.Lacks path) :
    ∃ error, (files.lookup path).metadata = .error error := by
  rcases lacks with missing | missing
  · exact ⟨_, missing⟩
  · exact ⟨_, missing⟩

theorem has_eq_true_iff : files.has path = true ↔
    ∃ metadata, (files.lookup path).metadata = .ok metadata := by
  rw [has]
  cases (files.lookup path).metadata <;> simp [Except.isOk, Except.toBool]

theorem has_eq_false_iff : files.has path = false ↔
    ∃ error, (files.lookup path).metadata = .error error := by
  rw [has]
  cases (files.lookup path).metadata <;> simp [Except.isOk, Except.toBool]

theorem readText_eq_ok_iff : files.readText path = .ok text ↔
    (files.lookup path).contents = .ok text.toUTF8 := by
  rw [readText]
  cases (files.lookup path).contents with
  | error error => exact iff_of_false nofun nofun
  | ok bytes =>
    rw [Except.ok.injEq, ← fromUTF8?_eq_some_iff]
    dsimp only
    cases String.fromUTF8? bytes <;> simp

end FileSystem

namespace Settings

open Toml (Item Mark Entries Reader)

variable {reader : Reader} {path text : String} {settings : Settings} {policy : Policy}
  {item evaluation : Item} {files : FileSystem} {path? : Option String}

/-- An item that names a policy or something else: a text, or a table of one key without
    content. -/
inductive Names : Item → String → Prop where
  | text (name : String) : Names (.text name) name
  | key (mark : Mark) (name : String) {item : Item} (hollow : isHollow item = true) :
      Names (.table mark [(name, item)]) name

inductive Gives : Item → Item → Prop where
  | key (mark : Mark) (item : Item) : Gives (.table mark [("empty_cells", item)]) item
  | first (item : Item) (others : List Item) : Gives (.array (item :: others)) item
  | earliest {latest entries : Entries} {earlier : List Entries}
      (last : (latest :: earlier).getLast? = some entries) :
      Gives (.tables latest earlier) (.table .header entries)

def Says (reader : Reader) (text : String) (policy : Policy) : Prop :=
  ∃ evaluation item, reader.entries? text = some [("evaluation", evaluation)] ∧
    Gives evaluation item ∧ Names item policy.name

theorem name_of_ofName? {name : String} (named : Policy.ofName? name = some policy) :
    name = policy.name := by
  unfold Policy.ofName? at named
  split at named <;> cases named <;> rfl

theorem names_of_policy? (given : policy? item = some policy) : Names item policy.name := by
  unfold policy? at given
  split at given
  · rw [← name_of_ofName? given]
    exact .text _
  · split at given
    · rename_i hollow
      rw [← name_of_ofName? given]
      exact .key _ _ hollow
    · cases given
  · cases given

theorem gives_of_evaluation? (read : evaluation? evaluation = some settings) :
    settings = default ∨ ∃ item, Gives evaluation item ∧ Names item settings.emptyCells.name := by
  unfold evaluation? at read
  split at read
  · cases read
    exact .inl rfl
  · cases read
    exact .inl rfl
  · split at read
    · rename_i name
      obtain ⟨policy, given, rfl⟩ := Option.map_eq_some_iff.mp read
      subst name
      exact .inr ⟨_, .key _ _, names_of_policy? given⟩
    · cases read
  · obtain ⟨policy, given, rfl⟩ := Option.map_eq_some_iff.mp read
    exact .inr ⟨_, .first _ _, names_of_policy? given⟩
  · obtain ⟨entries, last, mapped⟩ := Option.bind_eq_some_iff.mp read
    obtain ⟨policy, given, rfl⟩ := Option.map_eq_some_iff.mp mapped
    exact .inr ⟨_, .earliest last, names_of_policy? given⟩
  · cases read

theorem says_of_ofText? (read : ofText? reader text = some settings) :
    settings = default ∨ Says reader text settings.emptyCells := by
  obtain ⟨entries, parsed, read⟩ := Option.bind_eq_some_iff.mp read
  unfold ofEntries? at read
  split at read
  · cases read
    exact .inl rfl
  · split at read
    · rename_i name
      subst name
      obtain rfl | ⟨item, gives, names⟩ := gives_of_evaluation? read
      · exact .inl rfl
      · exact .inr ⟨_, item, parsed, gives, names⟩
    · cases read
  · cases read

section

variable {metadata : Metadata} {error : FileError}

theorem read_of_unknown (unknown : (files.lookup path).metadata = .error error) :
    read reader files path = .error (.file error) := by
  rw [read, unknown]

theorem read_of_large (known : (files.lookup path).metadata = .ok metadata)
    (large : 1048576 < metadata.size) :
    read reader files path = .error (.tooLarge path metadata.size) := by
  rw [read, known]
  exact if_pos large

theorem read_of_small (known : (files.lookup path).metadata = .ok metadata)
    (small : metadata.size ≤ 1048576) :
    read reader files path = (files.readText path).mapError .file >>= parse reader := by
  have allowed : ¬ sizeLimit < metadata.size := Nat.not_lt.mpr small
  rw [read, known]
  dsimp only
  rw [if_neg allowed]
  cases files.readText path <;> rfl

theorem read_of_unreadable (known : (files.lookup path).metadata = .ok metadata)
    (small : metadata.size ≤ 1048576) (unreadable : files.readText path = .error error) :
    read reader files path = .error (.file error) := by
  rw [read_of_small known small, unreadable]
  rfl

-- A file that its owner has made unreadable still has a size.
example : read reader ⟨none, fun _ => ⟨.ok ⟨true, 40⟩, .error (.system 13 "Permission denied")⟩⟩
    path = .error (.file (.system 13 "Permission denied")) := rfl

end

theorem read_of_holds (holds : files.Holds path text) :
    read reader files path = parse reader text := by
  obtain ⟨⟨metadata, known, small⟩, contents⟩ := holds
  rw [read_of_small known small, FileSystem.readText_eq_ok_iff.mpr contents]
  rfl

theorem read_cases (reader : Reader) (files : FileSystem) (path : String) :
    (∃ error, read reader files path = .error (.file error)) ∨
    (∃ metadata, (files.lookup path).metadata = .ok metadata ∧ 1048576 < metadata.size ∧
      read reader files path = .error (.tooLarge path metadata.size)) ∨
    ∃ text, files.Holds path text ∧ read reader files path = parse reader text := by
  cases known : (files.lookup path).metadata with
  | error error => exact .inl ⟨error, read_of_unknown known⟩
  | ok metadata =>
    rcases Nat.lt_or_ge 1048576 metadata.size with large | small
    · exact .inr (.inl ⟨metadata, rfl, large, read_of_large known large⟩)
    · cases outcome : files.readText path with
      | error error => exact .inl ⟨error, read_of_unreadable known small outcome⟩
      | ok text =>
        have contents := FileSystem.readText_eq_ok_iff.mp outcome
        have holds : files.Holds path text := ⟨⟨metadata, known, small⟩, contents⟩
        exact .inr (.inr ⟨text, holds, read_of_holds holds⟩)

theorem parse_eq_ok_iff_ofText? :
    parse reader text = .ok settings ↔ ofText? reader text = some settings := by
  rw [parse]
  cases ofText? reader text <;> simp

theorem parse_ne_tooLarge (size : Nat) : parse reader text ≠ .error (.tooLarge path size) := by
  rw [parse]
  cases ofText? reader text <;> exact nofun

theorem read_eq_ok_iff : read reader files path = .ok settings ↔
    ∃ text, files.Holds path text ∧ ofText? reader text = some settings := by
  constructor
  · intro accepted
    rcases read_cases reader files path with
      ⟨_, failed⟩ | ⟨_, _, _, refused⟩ | ⟨text, holds, parsed⟩
    · cases failed.symm.trans accepted
    · cases refused.symm.trans accepted
    · exact ⟨text, holds, parse_eq_ok_iff_ofText?.mp (parsed.symm.trans accepted)⟩
  · rintro ⟨text, holds, accepted⟩
    exact (read_of_holds holds).trans (parse_eq_ok_iff_ofText?.mpr accepted)

theorem read_eq_tooLarge_iff {size : Nat} : read reader files path = .error (.tooLarge path size) ↔
    1048576 < size ∧ ∃ regular, (files.lookup path).metadata = .ok ⟨regular, size⟩ := by
  constructor
  · intro refused
    rcases read_cases reader files path with
      ⟨_, failed⟩ | ⟨metadata, known, large, same⟩ | ⟨text, holds, parsed⟩
    · cases failed.symm.trans refused
    · cases same.symm.trans refused
      exact ⟨large, metadata.regular, known⟩
    · exact absurd (parsed.symm.trans refused) (parse_ne_tooLarge size)
  · rintro ⟨large, regular, known⟩
    exact read_of_large known large

theorem load_of_none (chosen : chosen? files path? = none) :
    load reader files path? = (default, none) := by
  rw [load, chosen]

theorem load_of_ok (chosen : chosen? files path? = some path)
    (accepted : read reader files path = .ok settings) :
    load reader files path? = (settings, none) := by
  obtain ⟨text, ⟨⟨metadata, known, -⟩, -⟩, -⟩ := read_eq_ok_iff.mp accepted
  rw [load, chosen]
  dsimp only
  rw [if_pos (FileSystem.has_eq_true_iff.mpr ⟨metadata, known⟩), accepted]

theorem load_of_error {metadata : Metadata} {error : SettingsError}
    (chosen : chosen? files path? = some path)
    (known : (files.lookup path).metadata = .ok metadata)
    (refused : read reader files path = .error error) : load reader files path? =
      (default, some ("Failed to load " ++ path ++ ": " ++ error.message)) := by
  rw [load, chosen]
  dsimp only
  rw [if_pos (FileSystem.has_eq_true_iff.mpr ⟨metadata, known⟩), refused]

theorem load_of_unknown {error : FileError} (chosen : chosen? files path? = some path)
    (unknown : (files.lookup path).metadata = .error error) :
    load reader files path? = (default, path?.map ("Config file not found: " ++ ·)) := by
  have hidden := FileSystem.has_eq_false_iff.mpr ⟨error, unknown⟩
  rw [load, chosen]
  dsimp only
  rw [hidden, if_neg Bool.false_ne_true]
  cases path? with
  | none => rfl
  | some given =>
    cases chosen
    rfl

theorem load_cases (reader : Reader) (files : FileSystem) (path? : Option String) :
    chosen? files path? = none ∨ ∃ path, chosen? files path? = some path ∧
      ((∃ settings, read reader files path = .ok settings) ∨
        (∃ error, (files.lookup path).metadata = .error error) ∨
        ∃ metadata error, (files.lookup path).metadata = .ok metadata ∧
          read reader files path = .error error) := by
  cases chosen : chosen? files path? with
  | none => exact .inl rfl
  | some path =>
    refine .inr ⟨path, rfl, ?_⟩
    cases outcome : read reader files path with
    | ok settings => exact .inl ⟨settings, rfl⟩
    | error error =>
      cases known : (files.lookup path).metadata with
      | error unknown => exact .inr (.inl ⟨unknown, rfl⟩)
      | ok metadata => exact .inr (.inr ⟨metadata, error, rfl, rfl⟩)

theorem load_of_not_ok (unread : ∀ path settings, chosen? files path? = some path →
    read reader files path ≠ .ok settings) : (load reader files path?).1 = default := by
  rcases load_cases reader files path? with nowhere | ⟨path, chosen, ways⟩
  · rw [load_of_none nowhere]
  · rcases ways with ⟨settings, accepted⟩ | ⟨error, unknown⟩ | ⟨metadata, error, known, refused⟩
    · exact absurd accepted (unread path settings chosen)
    · rw [load_of_unknown chosen unknown]
    · rw [load_of_error chosen known refused]

theorem load_silent_iff (told : path? = none → ∀ path, files.userPath? = some path →
      (∃ metadata, (files.lookup path).metadata = .ok metadata) ∨ files.Lacks path) :
    (load reader files path?).2 = none ↔
      (∃ path settings, chosen? files path? = some path ∧
        read reader files path = .ok settings) ∨
      path? = none ∧ ∀ path, files.userPath? = some path → files.Lacks path := by
  constructor
  · intro silent
    rcases load_cases reader files path? with nowhere | ⟨path, chosen, ways⟩
    · cases path? with
      | none =>
        refine .inr ⟨rfl, fun path user => ?_⟩
        cases nowhere.symm.trans user
      | some path => cases nowhere
    · rcases ways with ⟨settings, accepted⟩ | ⟨error, unknown⟩ | ⟨metadata, error, known, refused⟩
      · exact .inl ⟨path, settings, chosen, accepted⟩
      · rw [load_of_unknown chosen unknown, Option.map_eq_none_iff] at silent
        refine .inr ⟨silent, fun other user => ?_⟩
        subst silent
        cases user.symm.trans chosen
        rcases told rfl path chosen with ⟨metadata, known⟩ | lacks
        · cases unknown.symm.trans known
        · exact lacks
      · rw [load_of_error chosen known refused] at silent
        cases silent
  · rintro (⟨path, settings, chosen, accepted⟩ | ⟨rfl, lacks⟩)
    · rw [load_of_ok chosen accepted]
    · cases chosen : chosen? files none with
      | none => rw [load_of_none chosen]
      | some path =>
        obtain ⟨error, unknown⟩ := (lacks path chosen).unknown
        rw [load_of_unknown chosen unknown, Option.map_none]

theorem says_of_load (rejects : (load reader files path?).1.emptyCells = .reject) :
    ∃ path text, chosen? files path? = some path ∧ files.Holds path text ∧
      Says reader text .reject := by
  by_cases accepts : ∃ path settings,
      chosen? files path? = some path ∧ read reader files path = .ok settings
  · obtain ⟨path, settings, chosen, accepted⟩ := accepts
    obtain ⟨text, holds, made⟩ := read_eq_ok_iff.mp accepted
    rw [load_of_ok chosen accepted] at rejects
    rcases says_of_ofText? made with rfl | told
    · cases rejects
    · exact ⟨path, text, chosen, holds, rejects ▸ told⟩
  · have unread (path : String) (settings : Settings) (chosen : chosen? files path? = some path) :
        read reader files path ≠ .ok settings :=
      fun accepted => accepts ⟨path, settings, chosen, accepted⟩
    rw [load_of_not_ok unread] at rejects
    cases rejects

/-- Whatever there is at the chosen path, settings come of it, and a warning unless these are the
    settings of a file or the user has none. Where that cannot be found out for want of a look at
    the path, nothing is said about a warning. -/
structure LoadedSafely (reader : Reader) (files : FileSystem) (path? : Option String) : Prop where
  accepted : ∀ path settings, read reader files path = .ok settings ↔
    ∃ text, files.Holds path text ∧ ofText? reader text = some settings
  oversized : ∀ path size, read reader files path = .error (.tooLarge path size) ↔
    1048576 < size ∧ ∃ regular, (files.lookup path).metadata = .ok ⟨regular, size⟩
  given : ∀ path settings, chosen? files path? = some path →
    read reader files path = .ok settings → load reader files path? = (settings, none)
  otherwise : (∀ path settings, chosen? files path? = some path →
    read reader files path ≠ .ok settings) → (load reader files path?).1 = ⟨.zero⟩
  silent : (path? = none → ∀ path, files.userPath? = some path →
      (∃ metadata, (files.lookup path).metadata = .ok metadata) ∨ files.Lacks path) →
    ((load reader files path?).2 = none ↔
      (∃ path settings, chosen? files path? = some path ∧
        read reader files path = .ok settings) ∨
      path? = none ∧ ∀ path, files.userPath? = some path → files.Lacks path)
  missing : ∀ path, path? = some path → files.Lacks path →
    (load reader files path?).2 = some ("Config file not found: " ++ path)
  failed : ∀ path metadata error, chosen? files path? = some path →
    (files.lookup path).metadata = .ok metadata → read reader files path = .error error →
      (load reader files path?).2 = some ("Failed to load " ++ path ++ ": " ++ error.message)
  rejecting : (load reader files path?).1.emptyCells = .reject →
    ∃ path text, chosen? files path? = some path ∧ files.Holds path text ∧
      Says reader text .reject

theorem loaded_safely (reader : Reader) (files : FileSystem) (path? : Option String) :
    LoadedSafely reader files path? where
  accepted _ _ := read_eq_ok_iff
  oversized _ _ := read_eq_tooLarge_iff
  given _ _ := load_of_ok
  otherwise := load_of_not_ok
  silent := load_silent_iff
  missing path explicit lacks := by
    subst explicit
    obtain ⟨error, unknown⟩ := lacks.unknown
    have chosen : chosen? files (some path) = some path := rfl
    rw [load_of_unknown chosen unknown, Option.map_some]
  failed _ _ _ chosen known refused := by rw [load_of_error chosen known refused]
  rejecting := says_of_load

def rejection : String := "[evaluation]\nempty_cells = \"reject\"\n"

def demanding : FileSystem where
  userPath? := some "/home/.config/cellgrid/config.toml"
  lookup _ := ⟨.ok ⟨true, rejection.toUTF8.size⟩, .ok rejection.toUTF8⟩

theorem demanding_loaded_safely :
    load (.standard fun _ => "") demanding none = (⟨.reject⟩, none) := by
  have loaded := loaded_safely (.standard fun _ => "") demanding none
  have holds : demanding.Holds "/home/.config/cellgrid/config.toml" rejection :=
    ⟨⟨_, rfl, by decide +kernel⟩, rfl⟩
  exact loaded.given _ _ rfl ((loaded.accepted _ _).mpr ⟨rejection, holds, by decide +kernel⟩)

-- All there is is a device that yields nothing.
def bare : FileSystem where
  userPath? := none
  lookup path :=
    if path = "/dev/null" then ⟨.ok ⟨false, 0⟩, .ok ByteArray.empty⟩
    else ⟨.error .noEntry, .error .noEntry⟩

theorem bare_read : ¬ ((∃ settings, read (.standard fun _ => "") bare "/dev/null" = .ok settings) ↔
    bare.Regular "/dev/null" ∧ ∃ text, bare.Holds "/dev/null" text ∧
      (ofText? (.standard fun _ => "") text).isSome) := by
  intro same
  have holds : bare.Holds "/dev/null" "" := ⟨⟨_, rfl, by decide⟩, rfl⟩
  have accepted : read (.standard fun _ => "") bare "/dev/null" = .ok ⟨.zero⟩ :=
    read_eq_ok_iff.mpr ⟨"", holds, by decide +kernel⟩
  obtain ⟨⟨metadata, known, regular⟩, -⟩ := same.mp ⟨_, accepted⟩
  cases known
  cases regular

end Settings

end Worksheet
