import Worksheet.Proofs.Effects
import Worksheet.Proofs.Solution

namespace Worksheet

namespace Grid

inductive Remembers (grid : Grid) (last : Option Policy) : Prop where
  | nothing (uncached : ∀ slot, grid.cached slot = none) (unclean : grid.clean = false)
  | everything {policy : Policy} {values : Slots Binary64} (passed : last = some policy)
      (evaluated : grid.contents.evaluate policy = .ok values)
      (cached : ∀ slot, grid.cached slot = some (values.read slot))
      (current : grid.clean = true → policy = grid.policy)

structure WhollyCached (grid : Grid) (last : Option Policy) : Prop where
  whole : (∀ slot, grid.cached slot = none) ∨ ∀ slot, ∃ value, grid.cached slot = some value
  present : (∀ slot, ∃ value, grid.cached slot = some value) → ∃ policy, last = some policy ∧
    (∀ slot, ∃ value, grid.cached slot = some value ∧
      grid.contents.resolve policy slot = .ok value) ∧
    (grid.clean = true → policy = grid.policy)
  absent : (∀ slot, grid.cached slot = none) → grid.clean = false
  outdated : ∀ slot value, grid.cached slot = some value →
    grid.contents.resolve grid.policy slot ≠ .ok value →
      ∃ policy, last = some policy ∧ policy ≠ grid.policy ∧
        grid.contents.resolve policy slot = .ok value

theorem cached_ofContents (policy : Policy) (contents : Contents) (slot : Slot) :
    (ofContents policy contents).cached slot = none := Slots.read_all none slot

theorem remembers_ofContents (policy : Policy) (contents : Contents) (last : Option Policy) :
    (ofContents policy contents).Remembers last :=
  .nothing (cached_ofContents policy contents) rfl

variable {grid : Grid} {contents : Contents} {policy : Policy} {last : Option Policy}

theorem remembers_recalculate_of_ok (fine : (ofContents policy contents).recalculate.1 = .ok ()) :
    (ofContents policy contents).recalculate.2.Remembers (some policy) := by
  obtain ⟨values, evaluated⟩ := recalculate_eq_ok_iff.mp fine
  rw [recalculate_of_ok evaluated]
  exact .everything rfl evaluated (cached_filled _ values) fun _ => rfl

theorem remembers_recalculate_of_error {fault : Fault}
    (failed : (ofContents policy contents).recalculate.1 = .error fault) (last : Option Policy) :
    (ofContents policy contents).recalculate.2.Remembers last := by
  rw [recalculate_of_error (recalculate_eq_error_iff.mp failed)]
  exact remembers_ofContents policy contents last

namespace Remembers

theorem setPolicy (remembers : grid.Remembers last) (policy : Policy) :
    (grid.setPolicy policy).Remembers last := by
  cases remembers with
  | nothing uncached unclean => exact .nothing uncached rfl
  | everything passed evaluated cached current =>
    refine .everything passed evaluated cached ?_
    intro clean
    cases clean

theorem coherent (remembers : grid.Remembers last) : grid.Coherent := by
  cases remembers with
  | nothing uncached unclean => exact coherent_of_unclean unclean
  | everything passed evaluated cached current =>
    intro clean slot
    have same := current clean
    subst same
    exact ⟨_, cached slot, Contents.resolve_of_evaluate evaluated slot⟩

theorem whollyCached (remembers : grid.Remembers last) : grid.WhollyCached last := by
  -- There is a cell, so the values cannot be all present and all missing at once.
  cases remembers with
  | nothing uncached unclean =>
    constructor
    case whole => exact .inl uncached
    case present =>
      intro present
      obtain ⟨value, kept⟩ := present 0
      rw [uncached 0] at kept
      cases kept
    case absent => exact fun _ => unclean
    case outdated =>
      intro slot value kept
      rw [uncached slot] at kept
      cases kept
  | everything passed evaluated cached current =>
    have fine := Contents.resolve_of_evaluate evaluated
    constructor
    case whole => exact .inr fun slot => ⟨_, cached slot⟩
    case present => exact fun _ => ⟨_, passed, fun slot => ⟨_, cached slot, fine slot⟩, current⟩
    case absent =>
      intro absent
      have none := absent 0
      rw [cached 0] at none
      cases none
    case outdated =>
      intro slot value kept wrong
      rw [cached slot, Option.some.injEq] at kept
      subst kept
      refine ⟨_, passed, ?_, fine slot⟩
      intro same
      exact wrong (same ▸ fine slot)

end Remembers

end Grid

namespace Sheet

variable {sheet : Sheet} {last : Option Policy} {request : Request} {contents : Contents}

theorem passed_of_unevaluated (unevaluated : request.evaluated? sheet = none) :
    request.passed sheet last = last := by
  rw [Request.passed, unevaluated]

theorem passed_of_ok (evaluated : request.evaluated? sheet = some contents)
    (fine : (Grid.ofContents sheet.grid.policy contents).recalculate.1 = .ok ()) :
    request.passed sheet last = some sheet.grid.policy := by
  simp only [Request.passed, evaluated, fine]

theorem passed_of_error {fault : Fault} (evaluated : request.evaluated? sheet = some contents)
    (failed : (Grid.ofContents sheet.grid.policy contents).recalculate.1 = .error fault) :
    request.passed sheet last = last := by
  simp only [Request.passed, evaluated, failed]

theorem remembers_settle (evaluated : request.evaluated? sheet = some contents) (given : Answer) :
    (answer (fun _ => given)
      (sheet.settle (.ofContents sheet.grid.policy contents))).2.grid.Remembers
        (request.passed sheet last) := by
  simp only [settle_eq, answer]
  cases outcome : (Grid.ofContents sheet.grid.policy contents).recalculate.1 with
  | ok =>
    rw [passed_of_ok evaluated outcome]
    exact Grid.remembers_recalculate_of_ok outcome
  | error fault =>
    rw [passed_of_error evaluated outcome]
    exact Grid.remembers_recalculate_of_error outcome last

theorem remembers_perform (remembers : sheet.grid.Remembers last) (request : Request) :
    (sheet.perform request).2.grid.Remembers (request.passed sheet last) := by
  have effect := perform_effect remembers.coherent request
  generalize sheet.perform request = outcome at effect
  cases effect with
  | outside unevaluated | unselected unevaluated =>
    rw [passed_of_unevaluated unevaluated]
    exact remembers
  | recalculated evaluated given => exact remembers_settle evaluated given
  | kept unevaluated given grid =>
    rw [passed_of_unevaluated unevaluated]
    rcases grid with same | ⟨policy, same⟩
    · exact same ▸ remembers
    · exact same ▸ remembers.setPolicy policy

/-- Whatever is requested of a sheet, none of its values is out of date because of a text. -/
theorem reached_wholly_cached (reached : Reached sheet last) : sheet.grid.WhollyCached last := by
  have remembers : sheet.grid.Remembers last := by
    apply reached.invariant (P := fun sheet last => sheet.grid.Remembers last)
    · exact fun policy => Grid.remembers_ofContents policy .blank none
    · exact fun _ _ remembers request => remembers_perform remembers request
  exact remembers.whollyCached

def outdated : Sheet :=
  (((empty .zero).perform (.setContent ⟨0, 0⟩ "=B0")).2.perform (.setPolicy .reject)).2

theorem outdated_grid {values : Slots Binary64}
    (evaluated : (Contents.blank.write 0 "=B0").evaluate .zero = .ok values) : outdated.grid =
      (Grid.filled (.ofContents .zero (.write .blank 0 "=B0")) values).setPolicy .reject := by
  have inside : Address.slot? ⟨0, 0⟩ = some 0 := rfl
  have policy : (empty .zero).grid.policy = .zero := rfl
  have contents : (empty .zero).grid.contents = .blank := rfl
  have recalculated : (Grid.ofContents .zero (.write .blank 0 "=B0")).recalculate =
      (.ok (), Grid.filled (.ofContents .zero (.write .blank 0 "=B0")) values) :=
    Grid.recalculate_of_ok evaluated
  simp only [outdated, perform, setPolicy, setContent, inside, store_eq, settle_eq, answer,
    policy, contents, recalculated]

theorem outdated_wholly_cached : Reached outdated (some .zero) ∧
    outdated.grid.policy = .reject ∧ outdated.grid.WhollyCached (some .zero) ∧
    ∃ value, outdated.grid.cached 0 = some value ∧
      outdated.grid.contents.resolve outdated.grid.policy 0 ≠ .ok value := by
  obtain ⟨values, worked⟩ := Contents.exists_evaluate_iff.mpr fun slot =>
    ⟨_, Contents.resolve_lone_formula slot⟩
  have fine : (Grid.ofContents .zero (.write .blank 0 "=B0")).recalculate.1 = .ok () :=
    Grid.recalculate_eq_ok_iff.mpr ⟨values, worked⟩
  have evaluated : (Request.setContent ⟨0, 0⟩ "=B0").evaluated? (empty .zero) =
      some (.write .blank 0 "=B0") := rfl
  have last : (Request.setContent ⟨0, 0⟩ "=B0").passed (empty .zero) none = some .zero :=
    passed_of_ok evaluated fine
  have reached := (Reached.start .zero).request (.setContent ⟨0, 0⟩ "=B0")
  rw [last] at reached
  have later : Reached outdated (some .zero) := reached.request (.setPolicy .reject)
  refine ⟨later, rfl, reached_wholly_cached later, values.read 0, ?_, ?_⟩
  · rw [outdated_grid worked, Grid.cached_setPolicy, Grid.cached_filled]
  · rw [outdated_grid worked]
    exact Contents.resolve_lone_formula_reject _

end Sheet

end Worksheet
