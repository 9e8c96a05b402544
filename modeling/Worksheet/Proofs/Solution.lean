import Worksheet.Proofs.Evaluation
import Worksheet.Proofs.References

namespace Worksheet

open Relation

namespace Contents

structure Sound (contents : Contents) (policy : Policy) : Prop where
  literals : ∀ slot, contents.read slot ≠ "" →
    (contents.read slot).toList.head? ≠ some '=' →
      ∃ value, Literal.read (contents.read slot) = .ok value
  formulas : ∀ slot, (contents.read slot).toList.head? = some '=' →
    ∃ address, Address.ofFormula (contents.read slot) = .ok address
  acyclic : ∀ slot, ¬ TransGen contents.Refers slot slot
  occupied : policy = .reject → ∀ slot target, contents.Refers slot target →
    contents.read target ≠ ""

structure Solved (contents : Contents) (values : Slot → Binary64) : Prop where
  empty : ∀ slot, contents.read slot = "" → values slot = .zero
  literal : ∀ slot, contents.read slot ≠ "" →
    (contents.read slot).toList.head? ≠ some '=' →
      Literal.read (contents.read slot) = .ok (values slot)
  formula : ∀ slot target, contents.Refers slot target → values slot = values target

variable {contents : Contents} {policy : Policy} {slot stop target : Slot} {value : Binary64}
  {values : Slot → Binary64}

theorem resolve_of_holds (holds : contents.Holds slot value) (policy : Policy) :
    contents.resolve policy slot = .ok value :=
  resolve_eq_ok_iff.mpr ⟨slot, .refl, holds, fun _ => .inl rfl⟩

theorem resolve_of_refers (refers : contents.Refers slot target)
    (fine : contents.resolve policy slot = .ok value) :
    contents.resolve policy target = .ok value ∧ (contents.read target = "" → policy = .zero) := by
  obtain ⟨stop, reached, holds, allowed⟩ := resolve_eq_ok_iff.mp fine
  have different : stop ≠ slot := fun same => holds.not_refers target (same ▸ refers)
  have onwards : ReflTransGen contents.Refers target stop := by
    rcases reached.cases_head with same | ⟨next, step, onwards⟩
    · exact absurd same.symm different
    · have same := refers_unique contents refers step
      exact same ▸ onwards
  have charged : contents.read stop = "" → policy = .zero :=
    fun empty => (allowed empty).resolve_left different
  refine ⟨resolve_eq_ok_iff.mpr ⟨stop, onwards, holds, fun empty => .inr (charged empty)⟩, ?_⟩
  intro empty
  have same := eq_of_reached (holds_of_empty empty).not_refers onwards
  subst same
  exact charged empty

namespace Sound

theorem holds_or_refers (sound : contents.Sound policy) (slot : Slot) :
    (∃ value, contents.Holds slot value) ∨ ∃ target, contents.Refers slot target := by
  by_cases empty : contents.read slot = ""
  · exact .inl ⟨.zero, holds_of_empty empty⟩
  · by_cases sign : (contents.read slot).toList.head? = some '='
    · obtain ⟨address, names⟩ := sound.formulas slot sign
      obtain ⟨target, same⟩ := Address.exists_slot_of_ofFormula names
      subst same
      exact .inr ⟨target, names⟩
    · obtain ⟨value, read⟩ := sound.literals slot empty sign
      exact .inl ⟨value, holds_of_literal empty sign read⟩

theorem resolves (sound : contents.Sound policy) (slot : Slot) :
    ∃ value, contents.resolve policy slot = .ok value := by
  obtain ⟨stop, reached, ended⟩ := contents.exists_reached slot
  rcases sound.holds_or_refers stop with ⟨value, holds⟩ | ⟨target, refers⟩
  · refine ⟨value, resolve_eq_ok_iff.mpr ⟨stop, reached, holds, ?_⟩⟩
    intro empty
    -- The last reference on the way is the one that the policy is about.
    rcases reached.cases_tail with same | ⟨before, _, refers⟩
    · exact .inl same
    · cases policy with
      | zero => exact .inr rfl
      | reject => exact absurd empty (sound.occupied rfl before stop refers)
  · rcases ended with noTarget | cycle
    · exact absurd refers (noTarget target)
    · exact absurd cycle (sound.acyclic stop)

end Sound

theorem sound_of_resolved (fine : ∀ slot, contents.resolve policy slot = .ok (values slot)) :
    contents.Sound policy where
  literals := by
    intro slot nonempty noSign
    obtain ⟨stop, reached, holds, _⟩ := resolve_eq_ok_iff.mp (fine slot)
    rcases reached.cases_head with same | ⟨target, refers, _⟩
    · subst same
      rw [Holds, Content.ofText_eq_literal_iff.mpr ⟨nonempty, noSign, rfl⟩] at holds
      exact ⟨values slot, holds⟩
    · exact absurd (Address.head?_of_ofFormula refers) noSign
  formulas := by
    intro slot sign
    obtain ⟨stop, reached, holds, _⟩ := resolve_eq_ok_iff.mp (fine slot)
    rcases reached.cases_head with same | ⟨target, refers, _⟩
    · subst same
      rw [Holds, Content.ofText_eq_formula_iff.mpr ⟨sign, rfl⟩] at holds
      exact holds.elim
    · exact ⟨_, refers⟩
  acyclic := by
    intro slot cycle
    obtain ⟨stop, reached, holds, _⟩ := resolve_eq_ok_iff.mp (fine slot)
    have again := cycle_of_reached (refers_unique contents) cycle reached
    obtain ⟨target, refers, _⟩ := TransGen.head'_iff.mp again
    exact holds.not_refers target refers
  occupied := by
    intro reject slot target refers empty
    have zero := (resolve_of_refers refers (fine slot)).2 empty
    rw [reject] at zero
    cases zero

theorem solved_of_resolved (fine : ∀ slot, contents.resolve policy slot = .ok (values slot)) :
    contents.Solved values where
  empty := by
    intro slot empty
    have zero := resolve_of_holds (holds_of_empty empty) policy
    exact Except.ok.inj ((fine slot).symm.trans zero)
  literal := by
    intro slot nonempty noSign
    obtain ⟨value, read⟩ := (sound_of_resolved fine).literals slot nonempty noSign
    have own := resolve_of_holds (holds_of_literal nonempty noSign read) policy
    have same := Except.ok.inj ((fine slot).symm.trans own)
    exact same ▸ read
  formula := by
    intro slot target refers
    have carried := (resolve_of_refers refers (fine slot)).1
    exact Except.ok.inj (carried.symm.trans (fine target))

namespace Solved

theorem eq_of_holds (solved : contents.Solved values) (holds : contents.Holds slot value) :
    values slot = value := by
  unfold Holds at holds
  cases content : Content.ofText (contents.read slot) with
  | empty =>
    simp only [content] at holds
    exact (solved.empty slot (Content.ofText_eq_empty_iff.mp content)).trans holds.symm
  | literal literal =>
    simp only [content] at holds
    obtain ⟨nonempty, noSign, same⟩ := Content.ofText_eq_literal_iff.mp content
    have read := solved.literal slot nonempty noSign
    rw [← same, holds, Except.ok.injEq] at read
    exact read.symm
  | formula formula => simp only [content] at holds

theorem eq_of_reached (solved : contents.Solved values)
    (reached : ReflTransGen contents.Refers slot stop) : values slot = values stop := by
  induction reached with
  | refl => rfl
  | tail _ refers ih => exact ih.trans (solved.formula _ _ refers)

theorem eq_of_resolve (solved : contents.Solved values)
    (fine : contents.resolve policy slot = .ok value) : values slot = value := by
  obtain ⟨stop, reached, holds, _⟩ := resolve_eq_ok_iff.mp fine
  exact (solved.eq_of_reached reached).trans (solved.eq_of_holds holds)

end Solved

end Contents

namespace Grid

/-- A recalculation succeeds exactly for sound texts, and then gives all cells the only values
    that agree with the texts. -/
theorem recalculate_solves (grid : Grid) :
    (grid.recalculate.1 = .ok () ↔ grid.contents.Sound grid.policy) ∧
      (grid.recalculate.1 = .ok () → ∃ values : Slot → Binary64,
        (∀ slot, grid.recalculate.2.cached slot = some (values slot)) ∧
          grid.contents.Solved values ∧
          ∀ other, grid.contents.Solved other → other = values) := by
  cases evaluated : grid.contents.evaluate grid.policy with
  | ok values =>
    have fine := Contents.resolve_of_evaluate evaluated
    rw [recalculate_of_ok evaluated]
    refine ⟨iff_of_true rfl (Contents.sound_of_resolved fine), ?_⟩
    intro _
    refine ⟨values.read, grid.cached_filled values, Contents.solved_of_resolved fine, ?_⟩
    intro other solved
    funext slot
    exact solved.eq_of_resolve (fine slot)
  | error fault =>
    have unsound : ¬ grid.contents.Sound grid.policy := by
      intro sound
      obtain ⟨values, fine⟩ := Contents.exists_evaluate_iff.mpr sound.resolves
      rw [evaluated] at fine
      cases fine
    rw [recalculate_of_error evaluated]
    refine ⟨iff_of_false ?_ unsound, ?_⟩
    · intro fine
      cases fine
    · intro fine
      cases fine

end Grid

end Worksheet
