import Mathlib.Tactic.Choose
import Worksheet.Grid

namespace Worksheet

section FirstError

variable {ε α : Type} {n : Nat} {f : Fin n → Except ε α}

theorem ofFnM_of_ok {items : Fin n → α} (fine : ∀ i, f i = .ok (items i)) :
    Vector.ofFnM f = .ok (Vector.ofFn items) := by
  have same : f = fun i => pure (items i) := funext fine
  rw [same]
  exact Vector.ofFnM_pure

theorem ofFnM_of_error {i : Fin n} {error : ε} (failed : f i = .error error)
    (before : ∀ j < i, ∃ item, f j = .ok item) : Vector.ofFnM f = .error error := by
  induction n with
  | zero => exact i.elim0
  | succ n ih =>
    rw [Vector.ofFnM_succ]
    cases i using Fin.lastCases with
    | last =>
      have fine : ∀ j : Fin n, ∃ item, f j.castSucc = .ok item :=
        fun j => before _ (Fin.castSucc_lt_last j)
      choose items fine using fine
      rw [ofFnM_of_ok fine, failed]
      rfl
    | cast i =>
      rw [ih failed fun j less => before _ (Fin.castSucc_lt_castSucc_iff.mpr less)]
      rfl

theorem first_error_cases (f : Fin n → Except ε α) :
    (∃ items : Fin n → α, ∀ i, f i = .ok (items i)) ∨
      ∃ i error, f i = .error error ∧ ∀ j < i, ∃ item, f j = .ok item := by
  induction n with
  | zero => exact .inl ⟨fun i => i.elim0, fun i => i.elim0⟩
  | succ n ih =>
    -- The last item is the first to fail only if nothing before it does.
    rcases ih fun i => f i.castSucc with ⟨items, fine⟩ | ⟨i, error, failed, before⟩
    · cases final : f (Fin.last n) with
      | ok item =>
        refine .inl ⟨Fin.lastCases item items, ?_⟩
        intro i
        cases i using Fin.lastCases with
        | last => simpa only [Fin.lastCases_last] using final
        | cast i => simpa only [Fin.lastCases_castSucc] using fine i
      | error error =>
        refine .inr ⟨Fin.last n, error, final, ?_⟩
        intro j less
        cases j using Fin.lastCases with
        | last => exact absurd less (Nat.lt_irrefl _)
        | cast j => exact ⟨items j, fine j⟩
    · refine .inr ⟨i.castSucc, error, failed, ?_⟩
      intro j less
      cases j using Fin.lastCases with
      | last => exact absurd (Fin.castSucc_lt_last i) (Nat.lt_asymm less)
      | cast j => exact before j (Fin.castSucc_lt_castSucc_iff.mp less)

end FirstError

namespace Contents

variable {contents : Contents} {policy : Policy}

theorem resolve_of_evaluate {values : Slots Binary64}
    (evaluated : contents.evaluate policy = .ok values) (slot : Slot) :
    contents.resolve policy slot = .ok (values.read slot) := by
  rcases first_error_cases (contents.resolve policy) with
    ⟨items, fine⟩ | ⟨first, fault, failed, before⟩
  · have same := (ofFnM_of_ok fine).symm.trans evaluated
    rw [Except.ok.injEq] at same
    rw [fine, ← same]
    exact congrArg _ (Slots.read_ofFn items slot).symm
  · have same := (ofFnM_of_error failed before).symm.trans evaluated
    cases same

theorem evaluate_eq_error_iff {fault : Fault} :
    contents.evaluate policy = .error fault ↔
      ∃ slot, contents.resolve policy slot = .error fault ∧
        ∀ earlier < slot, ∃ value, contents.resolve policy earlier = .ok value := by
  constructor
  · intro evaluated
    rcases first_error_cases (contents.resolve policy) with
      ⟨items, fine⟩ | ⟨first, other, failed, before⟩
    · have same := (ofFnM_of_ok fine).symm.trans evaluated
      cases same
    · have same := (ofFnM_of_error failed before).symm.trans evaluated
      rw [Except.error.injEq] at same
      subst same
      exact ⟨first, failed, before⟩
  · intro ⟨first, failed, before⟩
    exact ofFnM_of_error failed before

theorem exists_evaluate_iff : (∃ values, contents.evaluate policy = .ok values) ↔
    ∀ slot, ∃ value, contents.resolve policy slot = .ok value := by
  constructor
  · intro ⟨values, evaluated⟩ slot
    exact ⟨values.read slot, resolve_of_evaluate evaluated slot⟩
  · intro fine
    choose items fine using fine
    exact ⟨Vector.ofFn items, ofFnM_of_ok fine⟩

theorem evaluate_eq_ok_iff {values : Slots Binary64} : contents.evaluate policy = .ok values ↔
    ∀ slot, contents.resolve policy slot = .ok (values.read slot) := by
  constructor
  · exact resolve_of_evaluate
  · intro fine
    obtain ⟨others, evaluated⟩ := exists_evaluate_iff.mpr fun slot => ⟨_, fine slot⟩
    have same : others = values := by
      apply Slots.ext_of
      intro slot
      exact Except.ok.inj ((resolve_of_evaluate evaluated slot).symm.trans (fine slot))
    exact same ▸ evaluated

theorem read_results (slot : Slot) :
    (contents.results policy).read slot = contents.resolve policy slot :=
  Slots.read_ofFn _ slot

theorem toList_results : (contents.results policy).toList = List.ofFn (contents.resolve policy) :=
  Vector.toList_ofFn

theorem firstFault_of_ok {values : Slots Binary64}
    (evaluated : contents.evaluate policy = .ok values) :
    (contents.results policy).toList.findSome? faultOf? = none := by
  rw [List.findSome?_eq_none_iff, toList_results]
  intro result member
  obtain ⟨slot, same⟩ := List.mem_ofFn.mp member
  rw [← same, resolve_of_evaluate evaluated slot]
  rfl

theorem firstFault_of_error {fault : Fault}
    (evaluated : contents.evaluate policy = .error fault) :
    (contents.results policy).toList.findSome? faultOf? = some fault := by
  obtain ⟨first, failed, before⟩ := evaluate_eq_error_iff.mp evaluated
  have bound : first.val < (List.ofFn (contents.resolve policy)).length := by
    rw [List.length_ofFn]
    exact first.isLt
  rw [List.findSome?_eq_some_iff, toList_results]
  refine ⟨_, _, _, (List.take_append_drop first.val _).symm.trans
    (congrArg _ (List.drop_eq_getElem_cons bound)), ?_, ?_⟩
  · rw [List.getElem_ofFn, failed]
    rfl
  · intro result member
    obtain ⟨i, inside, same⟩ := List.mem_take_iff_getElem.mp member
    obtain ⟨value, fine⟩ := before ⟨i, by omega⟩ (by simp only [Fin.lt_def]; omega)
    rw [← same, List.getElem_ofFn, fine]
    rfl

end Contents

namespace Grid

def filled (grid : Grid) (values : Slots Binary64) : Grid :=
  { grid with cache := values.map some, clean := true }

def drained (grid : Grid) : Grid := { grid with cache := uncached, clean := false }

theorem cached_filled (grid : Grid) (values : Slots Binary64) (slot : Slot) :
    (grid.filled values).cached slot = some (values.read slot) := Slots.read_map some values slot

theorem cached_drained (grid : Grid) (slot : Slot) : grid.drained.cached slot = none :=
  Slots.read_all none slot

theorem cached_setPolicy (grid : Grid) (policy : Policy) (slot : Slot) :
    (grid.setPolicy policy).cached slot = grid.cached slot := rfl

theorem cached_write (grid : Grid) (slot other : Slot) (text : String) :
    (grid.write slot text).cached other = if slot = other then none else grid.cached other :=
  Slots.read_write grid.cache slot other none

theorem recalculate_of_ok {grid : Grid} {values : Slots Binary64}
    (evaluated : grid.contents.evaluate grid.policy = .ok values) :
    grid.recalculate = (.ok (), grid.filled values) := by
  have kept : (grid.contents.results grid.policy).map Except.toOption = values.map some := by
    apply Slots.ext_of
    intro slot
    rw [Slots.read_map, Slots.read_map, Contents.read_results,
      Contents.resolve_of_evaluate evaluated slot]
    rfl
  unfold recalculate
  dsimp only
  rw [Contents.firstFault_of_ok evaluated, kept]
  rfl

theorem recalculate_of_error {grid : Grid} {fault : Fault}
    (evaluated : grid.contents.evaluate grid.policy = .error fault) :
    grid.recalculate = (.error fault, grid.drained) := by
  unfold recalculate
  dsimp only
  rw [Contents.firstFault_of_error evaluated]
  rfl

theorem recalculate_eq_ok_iff {grid : Grid} : grid.recalculate.1 = .ok () ↔
    ∃ values, grid.contents.evaluate grid.policy = .ok values := by
  cases evaluated : grid.contents.evaluate grid.policy with
  | ok values => simp [recalculate_of_ok evaluated]
  | error fault => simp [recalculate_of_error evaluated]

theorem recalculate_eq_error_iff {grid : Grid} {fault : Fault} :
    grid.recalculate.1 = .error fault ↔
      grid.contents.evaluate grid.policy = .error fault := by
  cases evaluated : grid.contents.evaluate grid.policy with
  | ok values => simp [recalculate_of_ok evaluated]
  | error other => simp [recalculate_of_error evaluated]

theorem ensure_of_clean {grid : Grid} (clean : grid.clean = true) : grid.ensure = (.ok (), grid) :=
  if_pos clean

theorem ensure_of_unclean {grid : Grid} (unclean : grid.clean = false) :
    grid.ensure = grid.recalculate := by
  rw [ensure, unclean, if_neg Bool.false_ne_true]

end Grid

end Worksheet
