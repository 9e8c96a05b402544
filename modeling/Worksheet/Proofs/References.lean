import Mathlib.Logic.Relation
import Worksheet.Proofs.Resolution

namespace Worksheet

open Relation

section RightUnique

variable {α : Type} {r : α → α → Prop} {start stop other : α}

theorem back_of_reached (unique : Relator.RightUnique r) (cycle : TransGen r start start)
    (reached : ReflTransGen r start stop) : TransGen r stop start := by
  induction reached with
  | refl => exact cycle
  | tail _ step ih =>
    obtain ⟨next, first, back⟩ := TransGen.head'_iff.mp ih
    have same := unique first step
    subst same
    exact cycle.trans_right back

theorem cycle_of_reached (unique : Relator.RightUnique r) (cycle : TransGen r start start)
    (reached : ReflTransGen r start stop) : TransGen r stop stop :=
  (back_of_reached unique cycle reached).trans_left reached

theorem eq_of_reached (ended : ∀ next, ¬ r stop next) (reached : ReflTransGen r stop other) :
    other = stop := by
  rcases reached.cases_head with same | ⟨next, step, _⟩
  · exact same.symm
  · exact absurd step (ended next)

end RightUnique

namespace Contents

def Refers (contents : Contents) (slot target : Slot) : Prop :=
  Address.ofFormula (contents.read slot) = .ok (Address.ofSlot target)

def Holds (contents : Contents) (slot : Slot) (value : Binary64) : Prop :=
  match Content.ofText (contents.read slot) with
  | .empty => value = .zero
  | .literal literal => Literal.read literal = .ok value
  | .formula _ => False

variable {contents : Contents} {policy : Policy} {slot stop target : Slot} {value : Binary64}

theorem refers_unique (contents : Contents) : Relator.RightUnique contents.Refers := by
  intro slot left right toLeft toRight
  have same := toLeft.symm.trans toRight
  rw [Except.ok.injEq] at same
  exact Address.ofSlot_injective same

theorem Refers.content (refers : contents.Refers slot target) :
    Content.ofText (contents.read slot) = .formula (contents.read slot) :=
  Content.ofText_of_ofFormula refers

theorem Holds.not_refers (holds : contents.Holds slot value) (target : Slot) :
    ¬ contents.Refers slot target := by
  intro refers
  rw [Holds, refers.content] at holds
  exact holds

theorem holds_of_empty (empty : contents.read slot = "") : contents.Holds slot .zero := by
  rw [Holds, Content.ofText_eq_empty_iff.mpr empty]

theorem holds_of_literal (nonempty : contents.read slot ≠ "")
    (noSign : (contents.read slot).toList.head? ≠ some '=')
    (read : Literal.read (contents.read slot) = .ok value) : contents.Holds slot value := by
  rw [Holds, Content.ofText_eq_literal_iff.mpr ⟨nonempty, noSign, rfl⟩]
  exact read

end Contents

variable {contents : Contents} {policy : Policy} {slot : Slot} {path : List Address}
  {last : String} {value : Binary64}

theorem Route.arrives
    (route : Route contents (contents.read slot) (Address.ofSlot slot) path last) :
    ∃ stop, path.getLast? = some (Address.ofSlot stop) ∧ last = contents.read stop ∧
      (path.length = 1 ↔ stop = slot) ∧
      ∀ via, Address.ofSlot via ∈ path → ReflTransGen contents.Refers via stop := by
  induction route with
  | start =>
    refine ⟨slot, rfl, rfl, by simp, ?_⟩
    intro via member
    have same := Address.ofSlot_injective (List.mem_singleton.mp member)
    subst same
    exact .refl
  | follow shorter names fresh found ih =>
    obtain ⟨before, _, text, _, reaches⟩ := ih
    obtain ⟨stop, same⟩ := Address.exists_slot_of_ofFormula names
    subst same text
    rw [contents.get?_ofSlot, Option.some.injEq] at found
    refine ⟨stop, List.getLast?_concat, found.symm, ?_, ?_⟩
    · have positive := shorter.length_pos
      have different : stop ≠ slot := fun same => fresh (same ▸ shorter.address_mem)
      rw [List.length_append, List.length_singleton]
      simp only [different, iff_false]
      omega
    · intro via member
      rcases List.mem_append.mp member with earlier | final
      · exact (reaches via earlier).tail names
      · have same := Address.ofSlot_injective (List.mem_singleton.mp final)
        subst same
        exact .refl

theorem CompleteRoute.cycle_of_refers {stop target : Slot}
    (complete : CompleteRoute contents (contents.read slot) (Address.ofSlot slot) path last)
    (reaches : ∀ via, Address.ofSlot via ∈ path → ReflTransGen contents.Refers via stop)
    (final : last = contents.read stop) (refers : contents.Refers stop target) :
    TransGen contents.Refers stop stop := by
  have member : Address.ofSlot target ∈ path := complete.ended _ (final ▸ refers)
  exact TransGen.head' refers (reaches target member)

namespace Contents

theorem resolve_at_end (contents : Contents) (slot : Slot) :
    ∃ path stop, ReflTransGen contents.Refers slot stop ∧ (path.length = 1 ↔ stop = slot) ∧
      ((∀ next, ¬ contents.Refers stop next) ∨ TransGen contents.Refers stop stop) ∧
      ∀ policy, contents.resolve policy slot = Route.outcome policy path (contents.read stop) := by
  obtain ⟨path, last, complete, _, outcome⟩ :=
    Walk.ofText_route contents (contents.read slot) (Address.ofSlot slot)
  obtain ⟨stop, _, final, single, reaches⟩ := complete.route.arrives
  refine ⟨path, stop, reaches slot complete.route.address_mem, single, ?_, final ▸ outcome⟩
  by_cases ended : ∃ next, contents.Refers stop next
  · obtain ⟨next, refers⟩ := ended
    exact .inr (complete.cycle_of_refers reaches final refers)
  · exact .inl (not_exists.mp ended)

theorem exists_reached (contents : Contents) (slot : Slot) :
    ∃ stop, ReflTransGen contents.Refers slot stop ∧
      ((∀ target, ¬ contents.Refers stop target) ∨ TransGen contents.Refers stop stop) := by
  obtain ⟨_, stop, reached, _, end_or_cycle, _⟩ := contents.resolve_at_end slot
  exact ⟨stop, reached, end_or_cycle⟩

theorem outcome_eq_ok_iff {stop : Slot} :
    Route.outcome policy path (contents.read stop) = .ok value ↔
      contents.Holds stop value ∧
        (contents.read stop = "" → path.length = 1 ∨ policy = .zero) := by
  unfold Route.outcome Holds
  cases content : Content.ofText (contents.read stop) with
  | empty =>
    have empty := Content.ofText_eq_empty_iff.mp content
    simp only [empty, forall_const]
    split
    · rename_i allowed
      simp only [allowed, and_true, Except.ok.injEq]
      exact eq_comm
    · rename_i refused
      simp only [refused, and_false, reduceCtorEq]
  | literal literal =>
    obtain ⟨nonempty, _, same⟩ := Content.ofText_eq_literal_iff.mp content
    simp only [same, nonempty, false_implies, and_true]
  | formula formula => simp only [reduceCtorEq, false_and]

/-- A cell has the value that stands at the end of its references, unless there is an empty cell
    at the end and empty cells are not to be referred to. -/
theorem resolve_eq_ok_iff : contents.resolve policy slot = .ok value ↔
    ∃ stop, ReflTransGen contents.Refers slot stop ∧ contents.Holds stop value ∧
      (contents.read stop = "" → stop = slot ∨ policy = .zero) := by
  obtain ⟨path, stop, reached, single, end_or_cycle, outcome⟩ := contents.resolve_at_end slot
  rw [outcome, outcome_eq_ok_iff, single]
  constructor
  · intro fine
    exact ⟨stop, reached, fine⟩
  · intro ⟨ground, grounded, holds, allowed⟩
    have same : ground = stop := by
      rcases reached.total_of_right_unique (refers_unique contents) grounded with onwards | back
      · rcases end_or_cycle with ended | cycle
        · exact eq_of_reached ended onwards
        · -- A route that ends in a reference has gone round and could not leave the cycle.
          have again := cycle_of_reached (refers_unique contents) cycle onwards
          obtain ⟨target, refers, _⟩ := TransGen.head'_iff.mp again
          exact absurd refers (holds.not_refers target)
      · exact (eq_of_reached holds.not_refers back).symm
    subst same
    exact ⟨holds, allowed⟩

theorem read_lone_formula (slot : Slot) :
    (blank.write 0 "=B0").read slot = if 0 = slot then "=B0" else "" := by
  rw [read_write, read_blank]

theorem refers_lone_formula : (blank.write 0 "=B0").Refers 0 1 := by
  rw [Refers, read_lone_formula, if_pos rfl]
  decide

theorem resolve_lone_formula (slot : Slot) :
    (blank.write 0 "=B0").resolve .zero slot = .ok .zero := by
  rw [resolve_eq_ok_iff]
  by_cases first : 0 = slot
  · subst first
    exact ⟨1, .single refers_lone_formula, holds_of_empty (read_lone_formula 1),
      fun _ => .inr rfl⟩
  · have empty : (blank.write 0 "=B0").read slot = "" := by
      rw [read_lone_formula, if_neg first]
    exact ⟨slot, .refl, holds_of_empty empty, fun _ => .inl rfl⟩

theorem resolve_lone_formula_reject (value : Binary64) :
    (blank.write 0 "=B0").resolve .reject 0 ≠ .ok value := by
  rw [ne_eq, resolve_eq_ok_iff]
  rintro ⟨stop, -, holds, allowed⟩
  by_cases first : 0 = stop
  · subst first
    exact holds.not_refers 1 refers_lone_formula
  · rw [read_lone_formula, if_neg first] at allowed
    rcases allowed rfl with same | zero
    · exact first same.symm
    · cases zero

end Contents

end Worksheet
