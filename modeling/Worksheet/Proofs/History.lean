import Mathlib.Data.List.Induction
import Worksheet.Grid.History
import Worksheet.Proofs.Evaluation

namespace Worksheet.Grid

theorem performAll_concat (grid : Grid) (requests : List Request) (request : Request) :
    grid.performAll (requests ++ [request]) = (grid.performAll requests).perform request := by
  simp only [performAll, List.foldl_append, List.foldl_cons, List.foldl_nil]

theorem history_concat (grid : Grid) (requests : List Request) (request : Request) :
    grid.history (requests ++ [request]) =
      grid.history requests ++ [⟨grid.performAll requests, request⟩] := by
  induction requests generalizing grid with
  | nil => rfl
  | cons first rest ih => exact congrArg _ (ih (grid.perform first))

section Since

variable {passed kept : Moment → Prop}

theorem not_since_nil : ¬ Since passed kept [] := by
  intro ⟨before, pass, after, same, _⟩
  cases before <;> cases same

theorem since_concat {history : List Moment} {moment : Moment} :
    Since passed kept (history ++ [moment]) ↔
      moment.Succeeds ∧ passed moment ∨
        ¬ moment.Succeeds ∧ kept moment ∧ Since passed kept history := by
  constructor
  · intro ⟨before, pass, after, same, succeeds, fits, later⟩
    rcases List.eq_nil_or_concat after with rfl | ⟨middle, last, rfl⟩
    · have last := (List.append_inj' same rfl).2
      cases last
      exact .inl ⟨succeeds, fits⟩
    · rw [List.concat_eq_append] at same later
      rw [← List.cons_append, ← List.append_assoc] at same
      obtain ⟨split, last⟩ := List.append_inj' same rfl
      cases last
      have final := later moment (by simp)
      refine .inr ⟨final.1, final.2, before, pass, middle, split, succeeds, fits, ?_⟩
      exact fun other member => later other (List.mem_append_left _ member)
  · rintro (⟨succeeds, fits⟩ | ⟨fails, stays, before, pass, after, rfl, succeeds, fits, later⟩)
    · exact ⟨history, moment, [], rfl, succeeds, fits, by simp⟩
    · refine ⟨before, pass, after ++ [moment], by simp, succeeds, fits, ?_⟩
      intro other member
      rcases List.mem_append.mp member with member | member
      · exact later other member
      · rw [List.mem_singleton] at member
        exact member ▸ ⟨fails, stays⟩

/-- What only a successful pass brings about, and what other requests can end, can be read off the
    requests since the last successful pass. -/
theorem performAll_iff_since {P : Grid → Prop} {grid : Grid} (start : ¬ P grid)
    (step : ∀ grid request, P (grid.perform request) ↔
      Moment.Succeeds ⟨grid, request⟩ ∧ passed ⟨grid, request⟩ ∨
        ¬ Moment.Succeeds ⟨grid, request⟩ ∧ kept ⟨grid, request⟩ ∧ P grid)
    (requests : List Request) :
    P (grid.performAll requests) ↔ Since passed kept (grid.history requests) := by
  induction requests using List.reverseRecOn with
  | nil => exact iff_of_false start not_since_nil
  | append_singleton requests request ih =>
    rw [performAll_concat, history_concat, since_concat, step, ih]

end Since

inductive Step (moment : Moment) : Grid → Prop where
  | succeeded (succeeds : moment.Succeeds) {values : Slots Binary64}
      (evaluated : moment.grid.contents.evaluate moment.grid.policy = .ok values) :
      Step moment (moment.grid.filled values)
  | failed (fails : moment.Fails) : Step moment moment.grid.drained
  | written (idle : moment.outcome? = none) {slot : Slot}
      (writes : ∀ other, moment.Writes other ↔ slot = other) (text : String) :
      Step moment (moment.grid.write slot text)
  | changed (idle : moment.outcome? = none) (unwritten : ∀ slot, ¬ moment.Writes slot)
      (sets : moment.SetsPolicy) (policy : Policy) : Step moment (moment.grid.setPolicy policy)
  | kept (idle : moment.outcome? = none) (unwritten : ∀ slot, ¬ moment.Writes slot)
      (unset : ¬ moment.SetsPolicy) : Step moment moment.grid

variable {moment : Moment}

theorem not_writes_of_request (other : ∀ address text, moment.request ≠ .put address text)
    (slot : Slot) : ¬ moment.Writes slot := by
  intro ⟨text, same⟩
  exact other _ _ same

theorem not_setsPolicy_of_request (other : ∀ policy, moment.request ≠ .setPolicy policy) :
    ¬ moment.SetsPolicy := by
  intro ⟨policy, same⟩
  exact other _ same

theorem step_recalculate (pass : moment.outcome? = some moment.grid.recalculate.1) :
    Step moment moment.grid.recalculate.2 := by
  cases evaluated : moment.grid.contents.evaluate moment.grid.policy with
  | ok values =>
    rw [recalculate_of_ok evaluated] at pass ⊢
    exact .succeeded pass evaluated
  | error fault =>
    rw [recalculate_of_error evaluated] at pass ⊢
    exact .failed ⟨fault, pass⟩

theorem perform_step (grid : Grid) (request : Request) :
    Step ⟨grid, request⟩ (grid.perform request) := by
  cases request with
  | put address text =>
    cases place : address.slot? with
    | some slot =>
      have same := Address.slot?_eq_some_iff.mp place
      subst same
      rw [perform_put_inside place]
      refine .written rfl ?_ text
      intro other
      simp only [Moment.Writes, Request.put.injEq, Address.ofSlot_injective.eq_iff,
        exists_and_left, exists_eq', and_true]
    | none =>
      rw [perform_put_outside place]
      refine .kept rfl ?_ (not_setsPolicy_of_request (by simp))
      intro slot ⟨written, same⟩
      cases same
      rw [Address.slot?_ofSlot] at place
      cases place
  | setPolicy policy =>
    exact .changed rfl (not_writes_of_request (by simp)) ⟨policy, rfl⟩ policy
  | recalculate => exact step_recalculate rfl
  | ensure =>
    cases state : grid.clean with
    | true =>
      rw [perform, ensure_of_clean state]
      exact .kept (if_pos state) (not_writes_of_request (by simp))
        (not_setsPolicy_of_request (by simp))
    | false =>
      rw [perform, ensure_of_unclean state]
      apply step_recalculate
      simp only [Moment.outcome?, state, Bool.false_eq_true, if_false, ensure_of_unclean state]

theorem not_succeeds_of_fails (fails : moment.Fails) : ¬ moment.Succeeds := by
  obtain ⟨fault, failed⟩ := fails
  simp [Moment.Succeeds, failed]

theorem not_succeeds_of_idle (idle : moment.outcome? = none) : ¬ moment.Succeeds := by
  simp [Moment.Succeeds, idle]

theorem not_fails_of_idle (idle : moment.outcome? = none) : ¬ moment.Fails := by
  simp [Moment.Fails, idle]

theorem clean_perform (grid : Grid) (request : Request) :
    (grid.perform request).clean = true ↔
      Moment.Succeeds ⟨grid, request⟩ ∧ True ∨
        ¬ Moment.Succeeds ⟨grid, request⟩ ∧ ¬ Moment.Disturbs ⟨grid, request⟩ ∧
          grid.clean = true := by
  have step := perform_step grid request
  generalize grid.perform request = next at step
  cases step with
  | succeeded succeeds => exact iff_of_true rfl (.inl ⟨succeeds, trivial⟩)
  | failed fails =>
    have disturbs : Moment.Disturbs ⟨grid, request⟩ := .inr (.inr fails)
    simp [drained, not_succeeds_of_fails fails, disturbs]
  | @written idle slot writes text =>
    have disturbs : Moment.Disturbs ⟨grid, request⟩ := .inl ⟨slot, (writes slot).mpr rfl⟩
    simp [write, not_succeeds_of_idle idle, disturbs]
  | changed idle unwritten sets policy =>
    have disturbs : Moment.Disturbs ⟨grid, request⟩ := .inr (.inl sets)
    simp [setPolicy, not_succeeds_of_idle idle, disturbs]
  | kept idle unwritten unset =>
    simp [Moment.Disturbs, not_succeeds_of_idle idle, not_fails_of_idle idle, unwritten, unset]

theorem cached_perform (grid : Grid) (request : Request) (slot : Slot) (value : Binary64) :
    (grid.perform request).cached slot = some value ↔
      Moment.Succeeds ⟨grid, request⟩ ∧ Moment.resolved ⟨grid, request⟩ slot = .ok value ∨
        ¬ Moment.Succeeds ⟨grid, request⟩ ∧
          (¬ Moment.Fails ⟨grid, request⟩ ∧ ¬ Moment.Writes ⟨grid, request⟩ slot) ∧
            grid.cached slot = some value := by
  have step := perform_step grid request
  generalize grid.perform request = next at step
  cases step with
  | succeeded succeeds evaluated =>
    have fine := Contents.resolve_of_evaluate evaluated slot
    simp [cached_filled, Moment.resolved, fine, succeeds]
  | failed fails => simp [cached_drained, not_succeeds_of_fails fails, fails]
  | @written idle written writes text =>
    have unfailed := not_fails_of_idle idle
    have unpassed := not_succeeds_of_idle idle
    by_cases same : written = slot
    · simp [cached_write, writes, same, unpassed]
    · simp [cached_write, writes, same, unpassed, unfailed]
  | changed idle unwritten sets policy =>
    simp [cached_setPolicy, not_succeeds_of_idle idle, not_fails_of_idle idle, unwritten]
  | kept idle unwritten unset =>
    simp [not_succeeds_of_idle idle, not_fails_of_idle idle, unwritten]

theorem cached_empty (policy : Policy) (slot : Slot) : (empty policy).cached slot = none :=
  Slots.read_all none slot

/-- The requests made of a grid tell whether it is clean and which value each of its cells has. A
    value is that of the last successful pass, even if other cells or the policy changed since. -/
theorem performAll_remembers (policy : Policy) (requests : List Request) :
    let grid := (empty policy).performAll requests
    let history := (empty policy).history requests
    (grid.clean = true ↔ Since (fun _ => True) (fun later => ¬ later.Disturbs) history) ∧
      (∀ slot value, grid.cached slot = some value ↔
        Since (fun pass => pass.resolved slot = .ok value)
          (fun later => ¬ later.Fails ∧ ¬ later.Writes slot) history) ∧
      ∀ address text, ¬ address.InBounds →
        (grid.perform (.put address text)).clean = grid.clean ∧
          ∀ slot, (grid.perform (.put address text)).cached slot = grid.cached slot := by
  intro grid history
  refine ⟨?_, ?_, ?_⟩
  · have start : ¬ (empty policy).clean = true := Bool.false_ne_true
    exact performAll_iff_since (P := fun grid => grid.clean = true) start clean_perform requests
  · intro slot value
    have start : ¬ (empty policy).cached slot = some value := by simp [cached_empty]
    exact performAll_iff_since (P := fun grid => grid.cached slot = some value) start
      (fun grid request => cached_perform grid request slot value) requests
  · intro address text outside
    rw [perform_put_outside (Address.slot?_eq_none_iff.mpr outside)]
    exact ⟨rfl, fun _ => rfl⟩

end Worksheet.Grid
