import Worksheet.Proofs.Coherence
import Worksheet.CommandLine.Page

namespace Worksheet

namespace Sheet

structure Keeps (sheet : Sheet) (contents : Contents) (policy : Policy) : Prop where
  contents : sheet.grid.contents = contents
  policy : sheet.grid.policy = policy
  coherent : sheet.grid.Coherent

theorem keeps_empty (policy : Policy) : (Sheet.empty policy).Keeps .blank policy :=
  ⟨rfl, rfl, Grid.coherent_empty policy⟩

variable {sheet : Sheet} {contents : Contents} {policy : Policy} {address : Address} {slot : Slot}
  {fault : Fault} {values : Slots Binary64}

namespace Keeps

theorem recalculate (keeps : sheet.Keeps contents policy) :
    ∃ grid, sheet.grid.recalculate =
        ((contents.evaluate policy).map fun _ => (), grid) ∧
      { sheet with grid }.Keeps contents policy ∧
      ∀ values, contents.evaluate policy = .ok values →
        ∀ slot, grid.cached slot = some (values.read slot) := by
  obtain ⟨sameContents, samePolicy, _⟩ := keeps
  subst sameContents samePolicy
  cases evaluated : sheet.grid.contents.evaluate sheet.grid.policy with
  | ok values =>
    refine ⟨sheet.grid.filled values, Grid.recalculate_of_ok evaluated,
      ⟨rfl, rfl, Grid.coherent_filled evaluated⟩, ?_⟩
    intro other same
    rw [Except.ok.injEq] at same
    exact same ▸ sheet.grid.cached_filled values
  | error fault =>
    refine ⟨sheet.grid.drained, Grid.recalculate_of_error evaluated,
      ⟨rfl, rfl, Grid.coherent_of_unclean rfl⟩, ?_⟩
    intro other same
    cases same

theorem setContent (keeps : sheet.Keeps contents policy) (place : address.slot? = some slot)
    (text : String) :
    ∃ next, next.Keeps (contents.write slot text) policy ∧ sheet.setContent address text =
      (((contents.write slot text).evaluate policy |>.map fun _ => ()).mapError .fault, next) := by
  have written : { sheet with grid := sheet.grid.write slot text }.Keeps
      (contents.write slot text) policy :=
    ⟨congrArg (·.write slot text) keeps.contents, keeps.policy, Grid.coherent_of_unclean rfl⟩
  obtain ⟨grid, result, kept, _⟩ := written.recalculate
  refine ⟨_, kept, ?_⟩
  simp only [Sheet.setContent, place, store, settle, result]

theorem getValue_of_ok (keeps : sheet.Keeps contents policy)
    (evaluated : contents.evaluate policy = .ok values) (inside : address.InBounds) :
    ∃ next, next.Keeps contents policy ∧
      sheet.getValue address = (.ok (contents.shown policy address), next) := by
  obtain ⟨slot, place⟩ := Address.exists_slot_of_inBounds inside
  obtain ⟨grid, result, kept, cached⟩ := keeps.recalculate
  refine ⟨_, kept, ?_⟩
  simp only [Sheet.getValue, place, read, keeps.coherent.ensure_eq, result, evaluated, Except.map,
    cached values evaluated slot, Contents.shown]

theorem getValue_of_error (keeps : sheet.Keeps contents policy)
    (evaluated : contents.evaluate policy = .error fault) (inside : address.InBounds) :
    ∃ next, next.Keeps contents policy ∧
      sheet.getValue address = (.error (.fault fault), next) := by
  obtain ⟨slot, place⟩ := Address.exists_slot_of_inBounds inside
  obtain ⟨grid, result, kept, _⟩ := keeps.recalculate
  refine ⟨_, kept, ?_⟩
  simp only [Sheet.getValue, place, read, keeps.coherent.ensure_eq, result, evaluated, Except.map]

theorem values_of_ok (keeps : sheet.Keeps contents policy)
    (evaluated : contents.evaluate policy = .ok values) :
    ∃ next, next.Keeps contents policy ∧ sheet.values =
      (.ok (Vector.ofFn fun row => Vector.ofFn fun col => contents.shown policy ⟨col, row⟩),
        next) := by
  obtain ⟨grid, result, kept, cached⟩ := keeps.recalculate
  refine ⟨_, kept, ?_⟩
  simp only [Sheet.values, keeps.coherent.ensure_eq, result, evaluated, Except.map,
    cached values evaluated, Contents.shown, slot?_slotAt]
  rfl

end Keeps

end Sheet

end Worksheet
