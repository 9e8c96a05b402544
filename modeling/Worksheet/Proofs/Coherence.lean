import Worksheet.Grid.Request
import Worksheet.Proofs.Evaluation
import Worksheet.Proofs.References

namespace Worksheet

namespace Grid

def Coherent (grid : Grid) : Prop :=
  grid.clean = true → ∀ slot, ∃ value,
    grid.cached slot = some value ∧ grid.contents.resolve grid.policy slot = .ok value

theorem coherent_of_unclean {grid : Grid} (unclean : grid.clean = false) : grid.Coherent := by
  intro clean
  rw [unclean] at clean
  cases clean

theorem coherent_filled {grid : Grid} {values : Slots Binary64}
    (evaluated : grid.contents.evaluate grid.policy = .ok values) :
    (grid.filled values).Coherent := by
  intro _ slot
  exact ⟨values.read slot, grid.cached_filled values slot,
    Contents.resolve_of_evaluate evaluated slot⟩

theorem coherent_recalculate (grid : Grid) : grid.recalculate.2.Coherent := by
  cases evaluated : grid.contents.evaluate grid.policy with
  | ok values =>
    rw [recalculate_of_ok evaluated]
    exact coherent_filled evaluated
  | error fault =>
    rw [recalculate_of_error evaluated]
    exact coherent_of_unclean rfl

namespace Coherent

theorem filled_of_clean {grid : Grid} (coherent : grid.Coherent) (clean : grid.clean = true) :
    ∃ values : Slots Binary64, grid.contents.evaluate grid.policy = .ok values ∧
      grid = grid.filled values := by
  have resolved : ∀ slot, ∃ value, grid.contents.resolve grid.policy slot = .ok value := by
    intro slot
    obtain ⟨value, _, fine⟩ := coherent clean slot
    exact ⟨value, fine⟩
  obtain ⟨values, evaluated⟩ := Contents.exists_evaluate_iff.mpr resolved
  have kept : grid.cache = values.map some := by
    apply Slots.ext_of
    intro slot
    obtain ⟨value, kept, fine⟩ := coherent clean slot
    rw [Contents.resolve_of_evaluate evaluated slot, Except.ok.injEq] at fine
    rw [Slots.read_map, fine]
    exact kept
  refine ⟨values, evaluated, ?_⟩
  rw [filled, ← kept, ← clean]

theorem ensure_eq {grid : Grid} (coherent : grid.Coherent) : grid.ensure = grid.recalculate := by
  unfold ensure
  split
  · rename_i clean
    obtain ⟨values, evaluated, same⟩ := coherent.filled_of_clean clean
    rw [recalculate_of_ok evaluated, ← same]
  · rfl

theorem perform {grid : Grid} (coherent : grid.Coherent) (request : Request) :
    (grid.perform request).Coherent := by
  cases request with
  | put address text =>
    cases place : address.slot? with
    | some slot =>
      rw [perform_put_inside place]
      exact coherent_of_unclean rfl
    | none =>
      rw [perform_put_outside place]
      exact coherent
  | setPolicy policy => exact coherent_of_unclean rfl
  | recalculate => exact coherent_recalculate grid
  | ensure =>
    have recalculated := coherent_recalculate grid
    rw [← coherent.ensure_eq] at recalculated
    exact recalculated

theorem performAll {grid : Grid} (coherent : grid.Coherent) (requests : List Request) :
    (grid.performAll requests).Coherent := by
  induction requests generalizing grid with
  | nil => exact coherent
  | cons request rest ih => exact ih (coherent.perform request)

end Coherent

theorem coherent_empty (policy : Policy) : (empty policy).Coherent := coherent_of_unclean rfl

/-- Whatever is done to a grid, its values can be trusted as long as it is clean, and nobody can
    tell a recalculation that was left out from one that was not. -/
theorem reachable_coherent (policy : Policy) (requests : List Request) :
    let grid := (empty policy).performAll requests
    (grid.clean = true → ∀ slot, ∃ value,
      grid.cached slot = some value ∧ grid.contents.resolve grid.policy slot = .ok value) ∧
      grid.ensure = grid.recalculate := by
  have coherent := (coherent_empty policy).performAll requests
  exact ⟨coherent, coherent.ensure_eq⟩

def settled : Grid := (empty .zero).performAll [.put ⟨0, 0⟩ "=B0", .recalculate]

theorem settled_coherent : settled.clean = true ∧ ∃ value,
    settled.cached 0 = some value ∧ settled.contents.resolve settled.policy 0 = .ok value := by
  obtain ⟨values, evaluated⟩ := Contents.exists_evaluate_iff.mpr fun slot =>
    ⟨_, Contents.resolve_lone_formula slot⟩
  have clean : settled.clean = true := by
    have inside : Address.slot? ⟨0, 0⟩ = some 0 := rfl
    rw [settled, performAll, List.foldl_cons, perform_put_inside inside, List.foldl_cons,
      List.foldl_nil, perform, recalculate_of_ok evaluated, filled]
  exact ⟨clean, (reachable_coherent .zero _).1 clean 0⟩

end Grid

end Worksheet
