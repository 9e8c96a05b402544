import Mathlib.Data.List.Count
import Worksheet.Grid.Repair
import Worksheet.Grid.Visit

namespace Worksheet

theorem Trail.unseen_start_le (address : Address) : (Trail.start address).unseen ≤ rows * cols := by
  have bound := List.countP_le_length
    (p := fun slot => decide (Address.ofSlot slot ∉ (Trail.start address).seen))
    (l := List.finRange (rows * cols))
  rwa [List.length_finRange] at bound

theorem Trail.unseen_start_lt {address : Address} (inside : address.InBounds) :
    (Trail.start address).unseen < rows * cols := by
  obtain ⟨slot, place⟩ := Address.exists_slot_of_inBounds inside
  have same := Address.slot?_eq_some_iff.mp place
  subst same
  have less : (Trail.start (Address.ofSlot slot)).unseen < (List.finRange (rows * cols)).length :=
    List.countP_lt_length_iff.mpr ⟨slot, List.mem_finRange slot, by simp [Trail.start]⟩
  rwa [List.length_finRange] at less

theorem Grid.cell?_ofSlot (grid : Grid) (slot : Slot) :
    grid.cell? (Address.ofSlot slot) = some ⟨grid.contents.read slot, grid.cached slot⟩ := by
  simp only [cell?, Address.slot?_ofSlot, Option.map_some]

namespace Visit

def walk (contents : Contents) (visit : Visit) : Walk :=
  Walk.extend contents visit.cell.raw visit.referenced visit.trail

inductive Looked (grid : Grid) (visit : Visit) : Walk ⊕ Visit → Prop where
  | ended {walk : Walk} (whole : visit.walk grid.contents = walk)
      (seen : walk.trail.seen = visit.trail.seen)
      (inside : ∀ formula, walk.ending ≠ .outside formula) : Looked grid visit (.inl walk)
  | followed {slot : Slot} {next : Visit}
      (whole : visit.walk grid.contents = next.walk grid.contents)
      (cell : next.cell = ⟨grid.contents.read slot, grid.cached slot⟩)
      (entered : visit.trail.enter (Address.ofSlot slot) = (true, next.trail)) :
      Looked grid visit (.inr next)

theorem looked (grid : Grid) (visit : Visit) : Looked grid visit (visit.look grid) := by
  obtain ⟨⟨text, cached⟩, referenced, trail⟩ := visit
  have whole : walk grid.contents ⟨⟨text, cached⟩, referenced, trail⟩ =
    Walk.extend grid.contents text referenced trail := rfl
  revert whole
  fun_cases Walk.extend grid.contents text referenced trail with
  | case1 content =>
    intro whole
    simp only [look, content]
    exact .ended whole rfl fun _ => Ending.noConfusion
  | case2 literal content =>
    intro whole
    simp only [look, content]
    exact .ended whole rfl fun _ => Ending.noConfusion
  | case3 formula content broken =>
    intro whole
    simp only [look, content, broken]
    exact .ended whole rfl fun _ => Ending.noConfusion
  | case4 formula content target names longer entered =>
    intro whole
    simp only [look, content, names, entered]
    obtain ⟨_, rest⟩ := Trail.enter_eq_false_iff.mp entered
    subst rest
    exact .ended whole rfl fun _ => Ending.noConfusion
  | case5 formula content target names longer entered missing =>
    -- A formula can only name cells of the grid.
    obtain ⟨slot, same⟩ :=
      Address.exists_slot_of_ofFormula (Address.ofFormula_eq_ok_iff.mpr names)
    subst same
    rw [grid.contents.get?_ofSlot] at missing
    cases missing
  | case6 formula content target names longer entered next found =>
    intro whole
    obtain ⟨slot, same⟩ :=
      Address.exists_slot_of_ofFormula (Address.ofFormula_eq_ok_iff.mpr names)
    subst same
    rw [grid.contents.get?_ofSlot, Option.some.injEq] at found
    subst found
    simp only [look, content, names, entered, grid.cell?_ofSlot]
    exact .followed whole rfl entered

namespace Ends

variable {grid : Grid} {visit : Visit} {count other : Nat} {walk last : Walk}

theorem walk_eq (ends : Ends grid visit count walk) : visit.walk grid.contents = walk := by
  induction ends with
  | @here visit walk look =>
    cases look ▸ looked grid visit with
    | ended whole => exact whole
  | @onwards visit next _ _ look _ ih =>
    cases look ▸ looked grid visit with
    | followed whole => exact whole.trans ih

theorem inside (ends : Ends grid visit count walk) (formula : String) :
    walk.ending ≠ .outside formula := by
  induction ends with
  | @here visit walk look =>
    cases look ▸ looked grid visit with
    | ended _ _ inside => exact inside formula
  | onwards _ _ ih => exact ih

theorem seen_eq (ends : Ends grid visit count walk) :
    ∃ slots : List Slot, walk.trail.seen = slots.map Address.ofSlot ++ visit.trail.seen ∧
      slots.length + 1 = count := by
  induction ends with
  | @here visit walk look =>
    cases look ▸ looked grid visit with
    | ended _ seen => exact ⟨[], seen, rfl⟩
  | @onwards visit next _ walk look _ ih =>
    cases look ▸ looked grid visit with
    | @followed slot _ _ _ entered =>
      -- Each look but the last one adds a cell of the grid to the trail.
      obtain ⟨slots, seen, length⟩ := ih
      obtain ⟨_, longer⟩ := Trail.enter_eq_true_iff.mp entered
      refine ⟨slots ++ [slot], ?_, ?_⟩
      · rw [seen, longer, List.map_append, List.append_assoc]
        rfl
      · rw [List.length_append, List.length_singleton, length]

theorem unique (ends : Ends grid visit count walk) (also : Ends grid visit other last) :
    other = count ∧ last = walk := by
  have same : walk = last := ends.walk_eq.symm.trans also.walk_eq
  subst same
  obtain ⟨slots, seen, length⟩ := ends.seen_eq
  obtain ⟨others, again, lengthOther⟩ := also.seen_eq
  have lengths := congrArg List.length (seen.symm.trans again)
  simp only [List.length_append, List.length_map] at lengths
  exact ⟨by omega, rfl⟩

end Ends

theorem exists_ends (grid : Grid) (visit : Visit) :
    ∃ count walk, Ends grid visit count walk ∧ count ≤ visit.trail.unseen + 1 := by
  -- A look that is not the last one leaves fewer cells that the trail has not come to.
  induction left : visit.trail.unseen using Nat.strongRecOn generalizing visit with
  | ind left ih =>
    have step := looked grid visit
    cases look : visit.look grid with
    | inl walk => exact ⟨1, walk, .here look, by omega⟩
    | inr next =>
      rw [look] at step
      cases step with
      | @followed slot _ _ _ entered =>
        have fresh : (visit.trail.enter (Address.ofSlot slot)).1 = true := by rw [entered]
        have fewer : next.trail.unseen < visit.trail.unseen := by
          have less := Trail.unseen_enter fresh
          rwa [entered] at less
        obtain ⟨count, walk, ends, bound⟩ := ih _ (by omega) next rfl
        exact ⟨count + 1, walk, .onwards look ends, by omega⟩

theorem exists_ends_of_start (grid : Grid) (cell : Cell) (address : Address) :
    ∃ count walk, Ends grid (.start cell address) count walk ∧
      count ≤ if address.InBounds then rows * cols else rows * cols + 1 := by
  obtain ⟨count, walk, ends, bound⟩ := exists_ends grid (.start cell address)
  refine ⟨count, walk, ends, ?_⟩
  split
  · rename_i inside
    exact Nat.le_trans bound (Trail.unseen_start_lt inside)
  · exact Nat.le_trans bound (Nat.succ_le_succ (Trail.unseen_start_le address))

end Visit

theorem Walk.examined_of_inside {walk : Walk} (inside : ∀ formula, walk.ending ≠ .outside formula) :
    walk.examined = walk.trail.seen := by
  unfold examined
  split
  · rename_i formula outside
    exact absurd outside (inside formula)
  · rfl

/-- A walk from any cell at any address is over after looking into no more cells than the grid has,
    and one more if it does not begin in the grid. Where it goes it always finds a cell. -/
theorem walk_ends_within_grid (grid : Grid) (cell : Cell) (address : Address) :
    ∃ count walk, Visit.Ends grid (.start cell address) count walk ∧
      (∀ other last, Visit.Ends grid (.start cell address) other last →
        other = count ∧ last = walk) ∧
      (count ≤ if address.InBounds then rows * cols else rows * cols + 1) ∧
      (∀ formula, walk.ending ≠ .outside formula) ∧
      walk.examined.length = count ∧
      (∀ via ∈ walk.examined, via = address ∨ via.InBounds) ∧
      walk.verdict grid.policy = grid.contents.resolveText grid.policy cell.raw address := by
  obtain ⟨count, walk, ends, bound⟩ := Visit.exists_ends_of_start grid cell address
  obtain ⟨slots, seen, length⟩ := ends.seen_eq
  have examined : walk.examined = slots.map Address.ofSlot ++ [address] :=
    (Walk.examined_of_inside ends.inside).trans seen
  refine ⟨count, walk, ends, fun _ _ => ends.unique, bound, ends.inside, ?_, ?_, ?_⟩
  · rw [examined, List.length_append, List.length_map, List.length_singleton, length]
  · intro via member
    rw [examined, List.mem_append, List.mem_singleton] at member
    rcases member with later | first
    · obtain ⟨slot, _, same⟩ := List.mem_map.mp later
      exact .inr (same ▸ Address.ofSlot_inBounds slot)
    · exact .inl first
  · rw [← ends.walk_eq]
    rfl

end Worksheet
