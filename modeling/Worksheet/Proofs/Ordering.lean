import Worksheet.Grid.Request
import Worksheet.Proofs.Strict

namespace Worksheet

open Relation

structure Reorders (order entries : List (Address × String)) : Prop where
  permuted : order.Perm entries
  distinct : (entries.map Prod.fst).Nodup

theorem Reorders.symm {order entries : List (Address × String)}
    (reorders : Reorders order entries) : Reorders entries order :=
  ⟨reorders.permuted.symm, (reorders.permuted.map Prod.fst).nodup_iff.mpr reorders.distinct⟩

namespace Contents

def PartOf (part contents : Contents) : Prop :=
  ∀ slot, part.read slot = contents.read slot ∨ part.read slot = ""

variable {contents part : Contents} {policy : Policy} {slot target : Slot}
  {order entries : List (Address × String)} {address : Address} {text : String}

theorem exists_evaluate_iff_sound :
    (∃ values, contents.evaluate policy = .ok values) ↔ contents.Sound policy := by
  constructor
  · intro ⟨values, evaluated⟩
    exact sound_of_resolved (resolve_of_evaluate evaluated)
  · intro sound
    exact exists_evaluate_iff.mpr sound.resolves

namespace PartOf

theorem read_eq (sub : part.PartOf contents) (nonempty : part.read slot ≠ "") :
    part.read slot = contents.read slot := (sub slot).resolve_right nonempty

theorem refers (sub : part.PartOf contents) (refers : part.Refers slot target) :
    contents.Refers slot target := by
  have nonempty : part.read slot ≠ "" :=
    fun empty => (holds_of_empty empty).not_refers target refers
  rwa [Refers, sub.read_eq nonempty] at refers

theorem sound (sub : part.PartOf contents) (sound : contents.Sound .zero) :
    part.Sound .zero where
  literals := by
    intro slot nonempty noSign
    have same := sub.read_eq nonempty
    rw [same] at nonempty noSign ⊢
    exact sound.literals slot nonempty noSign
  formulas := by
    intro slot sign
    have nonempty : part.read slot ≠ "" := by
      intro empty
      rw [empty] at sign
      exact absurd sign (by decide)
    rw [sub.read_eq nonempty] at sign ⊢
    exact sound.formulas slot sign
  acyclic := by
    intro slot cycle
    exact sound.acyclic slot (TransGen.mono (fun _ _ => sub.refers) _ _ cycle)
  occupied := by
    intro reject
    cases reject

end PartOf

theorem lookup_reverse_eq_some_iff (distinct : (entries.map Prod.fst).Nodup) :
    entries.reverse.lookup address = some text ↔ (address, text) ∈ entries := by
  constructor
  · intro found
    obtain ⟨later, earlier, same, _⟩ := List.lookup_eq_some_iff.mp found
    rw [← List.mem_reverse, same]
    exact List.mem_append_right _ List.mem_cons_self
  · intro member
    obtain ⟨before, after, same⟩ := List.append_of_mem member
    subst same
    rw [List.map_append, List.map_cons] at distinct
    have apart := (List.nodup_cons.mp (List.nodup_append.mp distinct).2.1).1
    apply lookup_reverse_of_last
    intro entry later again
    exact apart (List.mem_map.mpr ⟨entry, later, again⟩)

theorem listed_reorders (reorders : Reorders order entries) : listed order = listed entries := by
  apply ext_of
  intro slot
  have same : order.reverse.lookup (Address.ofSlot slot) =
      entries.reverse.lookup (Address.ofSlot slot) := by
    ext text
    rw [lookup_reverse_eq_some_iff reorders.symm.distinct,
      lookup_reverse_eq_some_iff reorders.distinct, reorders.permuted.mem_iff]
  rw [read_listed, read_listed, same]

theorem listed_take_partOf (distinct : (entries.map Prod.fst).Nodup) (count : Nat) :
    (listed (entries.take count)).PartOf (listed entries) := by
  have distinctTake : ((entries.take count).map Prod.fst).Nodup :=
    distinct.sublist ((List.take_sublist count entries).map Prod.fst)
  intro slot
  rw [read_listed, read_listed]
  cases found : (entries.take count).reverse.lookup (Address.ofSlot slot) with
  | none => exact .inr rfl
  | some text =>
    have member := (lookup_reverse_eq_some_iff distinctTake).mp found
    have whole := (lookup_reverse_eq_some_iff distinct).mpr (List.mem_of_mem_take member)
    rw [whole]
    exact .inl rfl

end Contents

namespace Grid

variable {grid : Grid}

theorem recalculate_eq_ok_iff_sound :
    grid.recalculate.1 = .ok () ↔ grid.contents.Sound grid.policy :=
  recalculate_eq_ok_iff.trans Contents.exists_evaluate_iff_sound

def emptied (grid : Grid) (addresses : List Address) : Grid :=
  grid.performAll (addresses.map fun address => .put address "")

theorem emptied_cons (grid : Grid) (address : Address) (rest : List Address) :
    grid.emptied (address :: rest) = (grid.perform (.put address "")).emptied rest := rfl

theorem emptied_partOf (grid : Grid) (addresses : List Address) :
    (grid.emptied addresses).policy = grid.policy ∧
      (grid.emptied addresses).contents.PartOf grid.contents := by
  induction addresses generalizing grid with
  | nil => exact ⟨rfl, fun _ => .inl rfl⟩
  | cons address rest ih =>
    rw [emptied_cons]
    cases place : address.slot? with
    | none =>
      rw [perform_put_outside place]
      exact ih grid
    | some emptied =>
      rw [perform_put_inside place]
      obtain ⟨policy, part⟩ := ih (grid.write emptied "")
      refine ⟨policy, ?_⟩
      intro slot
      have read : (grid.write emptied "").contents.read slot =
          if emptied = slot then "" else grid.contents.read slot :=
        grid.contents.read_write emptied slot ""
      rcases part slot with same | empty
      · rw [same, read]
        by_cases here : emptied = slot
        · exact .inr (if_pos here)
        · exact .inl (if_neg here)
      · exact .inr empty

theorem recalculate_emptied (zero : grid.policy = .zero) (fine : grid.recalculate.1 = .ok ())
    (addresses : List Address) : (grid.emptied addresses).recalculate.1 = .ok () := by
  obtain ⟨policy, part⟩ := grid.emptied_partOf addresses
  rw [recalculate_eq_ok_iff_sound, zero] at fine
  rw [recalculate_eq_ok_iff_sound, policy, zero]
  exact part.sound fine

end Grid

namespace CommandLine

variable {policy : Policy} {assignments order : List (Address × String)} {options : Options}

theorem recalculate_gridAfter_iff_sound :
    (gridAfter policy assignments).recalculate.1 = .ok () ↔
      (Contents.listed assignments).Sound policy := Grid.recalculate_eq_ok_iff_sound

theorem neverFails_of_recalculate (distinct : (assignments.map Prod.fst).Nodup)
    (fine : (gridAfter .zero assignments).recalculate.1 = .ok ()) :
    NeverFails .zero assignments := by
  -- As no text is replaced, each assignment leaves a part of the texts that there are in the end.
  intro i _
  rw [recalculate_gridAfter_iff_sound] at fine ⊢
  exact (Contents.listed_take_partOf distinct (i + 1)).sound fine

theorem neverFails_reorders (reorders : Reorders order assignments)
    (fine : (gridAfter .zero assignments).recalculate.1 = .ok ()) : NeverFails .zero order := by
  apply neverFails_of_recalculate reorders.symm.distinct
  rwa [gridAfter, Contents.listed_reorders reorders]

theorem neverFails_reorders_iff (reorders : Reorders order assignments) :
    NeverFails .zero assignments ↔ NeverFails .zero order := by
  have last : ∀ {entries}, NeverFails .zero entries →
      (gridAfter .zero entries).recalculate.1 = .ok () :=
    fun fine => recalculate_gridAfter_eq_ok_iff.mpr fine.evaluate
  constructor
  · exact fun fine => neverFails_reorders reorders (last fine)
  · exact fun fine => neverFails_reorders reorders.symm (last fine)

theorem runStrict_code_eq_zero_iff (inside : options.Inside) :
    (runStrict (.empty policy) options).code = 0 ↔ NeverFails policy options.assignments := by
  rcases neverFails_or_failsFirst policy options.assignments with fine | ⟨i, fault, first⟩
  · rw [runStrict_of_ok inside fine]
    exact iff_of_true rfl fine
  · obtain ⟨address, text, _, stopped⟩ := first.stopped inside.assignments
    rw [runStrict_of_error stopped]
    exact iff_of_false Nat.one_ne_zero first.not_neverFails

structure EndsAlike (first second : Outcome) : Prop where
  exits : first.code = 0 ↔ second.code = 0
  prints : first.code = 0 → first.stdout = second.stdout

structure OrderFree (policy : Policy) : Prop where
  emptied : ∀ (grid : Grid) addresses, grid.policy = policy → grid.recalculate.1 = .ok () →
    (grid.emptied addresses).recalculate.1 = .ok ()
  entered : ∀ assignments order, Reorders order assignments →
    (gridAfter policy assignments).recalculate.1 = .ok () → NeverFails policy order
  strict : ∀ (options : Options) order, options.Inside → Reorders order options.assignments →
    EndsAlike (runStrict (.empty policy) options)
      (runStrict (.empty policy) { options with assignments := order })
  run : ∀ reader files arguments others options order,
    Options.ofArguments arguments = .ok (some options) →
    Options.ofArguments others = .ok (some { options with assignments := order }) →
    options.keepGoing = false → policyFor options (settingsFor reader files options).1 = policy →
    Reorders order options.assignments →
    EndsAlike (run reader files arguments) (run reader files others)

theorem EndsAlike.warned {first second : Outcome} (alike : EndsAlike first second)
    (warning : Option String) : EndsAlike (first.warned warning) (second.warned warning) :=
  ⟨alike.exits, alike.prints⟩

theorem endsAlike_reorders (inside : options.Inside)
    (reorders : Reorders order options.assignments) :
    EndsAlike (runStrict (.empty .zero) options)
      (runStrict (.empty .zero) { options with assignments := order }) := by
  have insideOrder : { options with assignments := order }.Inside :=
    ⟨fun entry member => inside.assignments entry (reorders.permuted.mem_iff.mp member),
      inside.gets⟩
  constructor
  · rw [runStrict_code_eq_zero_iff inside, runStrict_code_eq_zero_iff insideOrder]
    exact neverFails_reorders_iff reorders
  · intro exits
    have fine := (runStrict_code_eq_zero_iff inside).mp exits
    have fineOrder := (neverFails_reorders_iff reorders).mp fine
    rw [runStrict_of_ok inside fine, runStrict_of_ok insideOrder fineOrder,
      Contents.listed_reorders reorders]

theorem run_of_strict {arguments : List String}
    (parsed : Options.ofArguments arguments = .ok (some options))
    (strict : options.keepGoing = false) {reader : Toml.Reader} {files : FileSystem}
    (policed : policyFor options (settingsFor reader files options).1 = policy) :
    run reader files arguments =
      (runStrict (.empty policy) options).warned (settingsFor reader files options).2 := by
  rw [run_of_parsed parsed, runOptions_eq, strict, if_neg Bool.false_ne_true, policed]

/-- As long as empty cells may be referred to, it makes no difference to a strict run in which
    order different cells are assigned to. -/
theorem zero_order_free : OrderFree .zero where
  emptied := fun _ addresses zero fine => Grid.recalculate_emptied zero fine addresses
  entered := fun _ _ reorders fine => neverFails_reorders reorders fine
  strict := fun _ _ inside reorders => endsAlike_reorders inside reorders
  run := by
    intro reader files arguments others options order parsed reordered strict zero reorders
    have inside := Options.inside_of_arguments parsed
    rw [run_of_strict parsed strict zero, run_of_strict reordered strict zero]
    exact (endsAlike_reorders inside reorders).warned (settingsFor reader files options).2

def backwards : Options where
  assignments := [(⟨1, 0⟩, "1"), (⟨0, 0⟩, "=B0")]
  gets := [⟨0, 0⟩]
  table := false
  keepGoing := false
  configPath := none
  noConfig := true
  strictEmpty := false

theorem reorders_backwards : Reorders backwards.assignments.reverse backwards.assignments :=
  ⟨List.reverse_perm _, by decide⟩

theorem backwards_ends_alike :
    Options.ofArguments ["--no-config", "B0=1", "A0==B0", "-g", "A0"] = .ok (some backwards) ∧
      Options.ofArguments ["--no-config", "A0==B0", "B0=1", "-g", "A0"] =
        .ok (some { backwards with assignments := backwards.assignments.reverse }) ∧
      ∀ reader files, EndsAlike (run reader files ["--no-config", "B0=1", "A0==B0", "-g", "A0"])
        (run reader files ["--no-config", "A0==B0", "B0=1", "-g", "A0"]) := by
  have parsed : Options.ofArguments ["--no-config", "B0=1", "A0==B0", "-g", "A0"] =
      .ok (some backwards) := by decide +kernel
  have reordered : Options.ofArguments ["--no-config", "A0==B0", "B0=1", "-g", "A0"] =
      .ok (some { backwards with assignments := backwards.assignments.reverse }) := by
    decide +kernel
  refine ⟨parsed, reordered, ?_⟩
  intro reader files
  exact zero_order_free.run reader files _ _ backwards _ parsed reordered rfl rfl reorders_backwards

theorem sound_backwards : (Contents.listed backwards.assignments).Sound .reject := by
  apply Contents.exists_evaluate_iff_sound.mp
  rw [Contents.exists_evaluate_iff]
  have refers : (Contents.listed backwards.assignments).Refers 0 1 := by
    unfold Contents.Refers
    decide +kernel
  obtain ⟨one, read⟩ : ∃ one, Literal.read "1" = .ok one := ⟨_, rfl⟩
  have holds : (Contents.listed backwards.assignments).Holds 1 one :=
    Contents.holds_of_literal (by decide +kernel) (by decide +kernel) read
  have others : ∀ slot, slot ≠ 0 → slot ≠ 1 →
      (Contents.listed backwards.assignments).read slot = "" := by decide +kernel
  intro slot
  by_cases first : slot = 0
  · subst first
    exact ⟨one, Contents.resolve_eq_ok_iff.mpr ⟨1, .single refers, holds, by decide +kernel⟩⟩
  · by_cases second : slot = 1
    · subst second
      exact ⟨one, Contents.resolve_of_holds holds .reject⟩
    · exact ⟨_, Contents.resolve_of_holds (Contents.holds_of_empty (others slot first second)) _⟩

theorem reject_not_order_free : ¬ OrderFree .reject := by
  intro free
  have refers : (Contents.listed (backwards.assignments.reverse.take 1)).Refers 0 1 := by
    unfold Contents.Refers
    decide +kernel
  have fine := recalculate_gridAfter_iff_sound.mpr sound_backwards
  have first := free.entered _ _ reorders_backwards fine 0 (by decide)
  rw [recalculate_gridAfter_iff_sound] at first
  exact first.occupied rfl 0 1 refers (by decide +kernel)

end CommandLine

end Worksheet
