import Worksheet.Grid
import Worksheet.Proofs.Route

namespace Worksheet

variable {contents : Contents} {text last origin : String} {address : Address}
  {path : List Address}

theorem Route.complete_of_no_target (route : Route contents text address path last)
    (noTarget : ∀ target, Address.ofFormula last ≠ .ok target) :
    CompleteRoute contents text address path last :=
  ⟨route, fun target names => absurd names (noTarget target)⟩

theorem Walk.extend_route (contents : Contents) (text : String) (referenced : Bool) (trail : Trail)
    (path : List Address) (route : Route contents origin address path text)
    (seen : trail.seen = path.reverse) (arrived : referenced = true ↔ path.length ≠ 1) :
    ∃ whole last, CompleteRoute contents origin address whole last ∧
      (Walk.extend contents text referenced trail).trail.seen = whole.reverse ∧
      ∀ policy, (Walk.extend contents text referenced trail).verdict policy =
        Route.outcome policy whole last := by
  -- Each call of the walk adds one cell to the route, so the route is the same as the cells seen,
  -- and a formula has led to its end unless it has one cell only.
  fun_induction Walk.extend contents text referenced trail generalizing path with
  | case1 text referenced trail empty =>
    refine ⟨path, text, route.complete_of_no_target ?_, seen, ?_⟩
    · intro target names
      rw [Content.ofText_of_ofFormula names] at empty
      cases empty
    · intro policy
      cases policy <;> simp [verdict, Route.outcome, empty, arrived]
  | case2 text referenced trail literal content =>
    obtain ⟨_, _, same⟩ := Content.ofText_eq_literal_iff.mp content
    subst same
    refine ⟨path, literal, route.complete_of_no_target ?_, seen, ?_⟩
    · intro target names
      rw [Content.ofText_of_ofFormula names] at content
      cases content
    · intro policy
      simp only [verdict, Route.outcome, content]
  | case3 text referenced trail formula content broken =>
    obtain ⟨_, same⟩ := Content.ofText_eq_formula_iff.mp content
    subst same
    refine ⟨path, formula, route.complete_of_no_target ?_, seen, ?_⟩
    · intro target names
      rw [Address.ofFormula_eq_ok_iff, broken] at names
      cases names
    · intro policy
      simp only [verdict, Route.outcome, content]
  | case4 text referenced trail formula content target names longer entered =>
    obtain ⟨_, same⟩ := Content.ofText_eq_formula_iff.mp content
    subst same
    obtain ⟨member, rest⟩ := Trail.enter_eq_false_iff.mp entered
    subst rest
    refine ⟨path, formula, ⟨route, ?_⟩, seen, ?_⟩
    · intro other names'
      rw [Address.ofFormula_eq_ok_iff, names, Option.some.injEq] at names'
      subst names'
      rw [seen] at member
      exact List.mem_reverse.mp member
    · intro policy
      simp only [verdict, Route.outcome, content]
  | case5 text referenced trail formula content target names longer entered missing =>
    -- A formula names no cell outside the grid, so the grid has a text for every new cell.
    obtain ⟨slot, same⟩ :=
      Address.exists_slot_of_ofFormula (Address.ofFormula_eq_ok_iff.mpr names)
    subst same
    rw [contents.get?_ofSlot] at missing
    cases missing
  | case6 text referenced trail formula content target names longer entered next found ih =>
    obtain ⟨_, same⟩ := Content.ofText_eq_formula_iff.mp content
    subst same
    obtain ⟨absent, rest⟩ := Trail.enter_eq_true_iff.mp entered
    subst rest
    have fresh : target ∉ path := by
      rw [seen] at absent
      exact fun member => absent (List.mem_reverse.mpr member)
    have onwards := route.follow (Address.ofFormula_eq_ok_iff.mpr names) fresh found
    have positive := route.length_pos
    apply ih (path ++ [target]) onwards
    · rw [List.reverse_append, List.reverse_singleton, seen]
      rfl
    · rw [List.length_append, List.length_singleton]
      simp only [true_iff]
      omega

theorem Walk.ofText_route (contents : Contents) (text : String) (address : Address) :
    ∃ path last, CompleteRoute contents text address path last ∧
      (Walk.ofText contents text address).trail.seen = path.reverse ∧
      ∀ policy, contents.resolveText policy text address = Route.outcome policy path last :=
  Walk.extend_route contents text false (Trail.start address) [address] .start rfl (by simp)

theorem resolveText_of_complete (complete : CompleteRoute contents text address path last)
    (policy : Policy) :
    contents.resolveText policy text address = Route.outcome policy path last := by
  obtain ⟨other, final, walked, _, outcome⟩ := Walk.ofText_route contents text address
  obtain ⟨samePath, sameLast⟩ := complete.unique walked
  subst samePath sameLast
  exact outcome policy

/-- A formula that names a cell of the route to it is at fault, whatever text the grid has in the
    cell that the route begins at. -/
theorem resolveText_of_return (route : Route contents text address path last)
    (target : Address) (names : Address.ofFormula last = .ok target) (member : target ∈ path)
    (policy : Policy) :
    contents.resolveText policy text address = .error (.badFormula last) := by
  have complete : CompleteRoute contents text address path last := by
    refine ⟨route, ?_⟩
    intro other names'
    rw [names, Except.ok.injEq] at names'
    exact names' ▸ member
  rw [resolveText_of_complete complete, Route.outcome, Content.ofText_of_ofFormula names]

/-- A cell resolves to the outcome of the longest route from its text. There is one such route, a
    formula at its end names no cell or one of the route, and values that earlier recalculations
    left in the grid or in the cell have no part in it. -/
theorem resolve_along_longest_route (grid : Grid) (cell : Cell) (address : Address) :
    ∃ path last, LongestRoute grid.contents cell.raw address path last ∧ path.Nodup ∧
      (∀ other final, LongestRoute grid.contents cell.raw address other final →
        other = path ∧ final = last) ∧
      grid.contents.resolveText grid.policy cell.raw address =
        Route.outcome grid.policy path last ∧
      (∀ formula, Content.ofText last = .formula formula →
        Address.ofFormula formula = .error (.badFormula formula) ∨
          ∃ target ∈ path, Address.ofFormula formula = .ok target) ∧
      ∀ other final, Route grid.contents cell.raw address other final →
        Address.ofFormula final = .ok address →
        grid.contents.resolveText grid.policy cell.raw address = .error (.badFormula final) := by
  obtain ⟨path, last, complete, _, outcome⟩ :=
    Walk.ofText_route grid.contents cell.raw address
  refine ⟨path, last, longestRoute_iff.mpr complete, complete.route.nodup, ?_,
    outcome grid.policy, ?_, ?_⟩
  · intro other final longest
    exact (longestRoute_iff.mp longest).unique complete
  · intro formula content
    obtain ⟨_, same⟩ := Content.ofText_eq_formula_iff.mp content
    subst same
    cases names : Address.ofFormula? formula with
    | none => exact .inl (Address.ofFormula?_eq_none_iff.mp names)
    | some target =>
      have named := Address.ofFormula_eq_ok_iff.mpr names
      exact .inr ⟨target, complete.ended target named, named⟩
  · intro other final route returns
    exact resolveText_of_return route address returns route.address_mem grid.policy

end Worksheet
