import Worksheet.Proofs.Coherence
import Worksheet.Proofs.Entries

namespace Worksheet

namespace Sheet

def forget (sheet : Sheet) : Uncached := ⟨sheet.grid.contents, sheet.grid.policy, sheet.selection⟩

structure Matches (outcome : Except SheetError Answer × Sheet)
    (expected : Except SheetError Answer × Uncached) : Prop where
  answer : outcome.1 = expected.1
  state : outcome.2.forget = expected.2
  coherent : outcome.2.grid.Coherent

theorem settle_matches {sheet : Sheet} (grid : Grid) (kept : grid.policy = sheet.grid.policy) :
    Matches (answer (fun _ => .done) (sheet.settle grid))
      (sheet.forget.replace grid.contents) := by
  unfold Uncached.replace forget
  rw [← kept]
  cases evaluated : grid.contents.evaluate grid.policy with
  | ok values =>
    simp only [settle, Uncached.evaluated, evaluated, Grid.recalculate_of_ok evaluated]
    exact ⟨rfl, rfl, Grid.coherent_filled evaluated⟩
  | error fault =>
    simp only [settle, Uncached.evaluated, evaluated, Grid.recalculate_of_error evaluated]
    exact ⟨rfl, rfl, Grid.coherent_of_unclean rfl⟩

theorem store_matches (sheet : Sheet) (slot : Slot) (text : String) :
    Matches (answer (fun _ => .done) (sheet.store slot text)) (sheet.forget.store slot text) :=
  settle_matches (sheet.grid.write slot text) rfl

theorem read_matches {sheet : Sheet} (coherent : sheet.grid.Coherent) (slot : Slot) :
    Matches (answer .text (sheet.read slot)) (sheet.forget.shown slot) := by
  cases evaluated : sheet.grid.contents.evaluate sheet.grid.policy with
  | ok values =>
    simp only [read, Uncached.shown, Uncached.evaluated, forget, coherent.ensure_eq, evaluated,
      Grid.recalculate_of_ok evaluated, Grid.cached_filled]
    exact ⟨rfl, rfl, Grid.coherent_filled evaluated⟩
  | error fault =>
    simp only [read, Uncached.shown, Uncached.evaluated, forget, coherent.ensure_eq, evaluated,
      Grid.recalculate_of_error evaluated]
    exact ⟨rfl, rfl, Grid.coherent_of_unclean rfl⟩

theorem values_matches {sheet : Sheet} (coherent : sheet.grid.Coherent) :
    Matches (answer .display sheet.values) (sheet.forget.perform .values) := by
  cases evaluated : sheet.grid.contents.evaluate sheet.grid.policy with
  | ok values =>
    simp only [Sheet.values, Uncached.perform, Uncached.evaluated, forget, coherent.ensure_eq,
      evaluated, Grid.recalculate_of_ok evaluated, Grid.cached_filled]
    exact ⟨rfl, rfl, Grid.coherent_filled evaluated⟩
  | error fault =>
    simp only [Sheet.values, Uncached.perform, Uncached.evaluated, forget, coherent.ensure_eq,
      evaluated, Grid.recalculate_of_error evaluated]
    exact ⟨rfl, rfl, Grid.coherent_of_unclean rfl⟩

theorem unchanged_matches {sheet : Sheet} (coherent : sheet.grid.Coherent)
    (given : Except SheetError Answer) : Matches (given, sheet) (given, sheet.forget) :=
  ⟨rfl, rfl, coherent⟩

theorem outside_matches {sheet : Sheet} (coherent : sheet.grid.Coherent) {request : Request}
    {address : Address} (named : request.address? = some address)
    (outside : address.slot? = none) :
    Matches (sheet.perform request) (sheet.forget.perform request) := by
  rw [perform_outside named outside, Uncached.perform_outside named outside]
  exact unchanged_matches coherent _

theorem unselected_matches {sheet : Sheet} (coherent : sheet.grid.Coherent) {request : Request}
    (needs : request.NeedsSelection) (unselected : sheet.selection = none) :
    Matches (sheet.perform request) (sheet.forget.perform request) := by
  rw [perform_unselected needs unselected, Uncached.perform_unselected needs unselected]
  exact unchanged_matches coherent _

theorem reload_matches (sheet : Sheet) (contents : Contents) :
    Matches (answer (fun _ => .done) (sheet.settle (.ofContents sheet.grid.policy contents)))
      (sheet.forget.replace contents) :=
  settle_matches (.ofContents sheet.grid.policy contents) rfl

theorem load_matches {sheet : Sheet} (coherent : sheet.grid.Coherent)
    (entries : List (Address × String)) :
    Matches (sheet.perform (.load entries)) (sheet.forget.perform (.load entries)) := by
  cases found : entries.find? fun entry => decide (¬ entry.1.InBounds) with
  | some outside =>
    simp only [perform, load, Contents.ofEntries_of_outside found, Uncached.perform, found]
    exact unchanged_matches coherent _
  | none =>
    simp only [perform, load, Contents.ofEntries_of_inside found, Uncached.perform, found]
    exact reload_matches sheet _

theorem perform_matches {sheet : Sheet} (coherent : sheet.grid.Coherent) (request : Request) :
    Matches (sheet.perform request) (sheet.forget.perform request) := by
  cases request with
  | setContent address text =>
    cases place : address.slot? with
    | none => exact outside_matches coherent rfl place
    | some slot =>
      simp only [perform, setContent, Uncached.perform, Uncached.within, place]
      exact store_matches sheet slot text
  | clear address =>
    cases place : address.slot? with
    | none => exact outside_matches coherent rfl place
    | some slot =>
      simp only [perform, clear, setContent, Uncached.perform, Uncached.within, place]
      exact store_matches sheet slot ""
  | getValue address =>
    cases place : address.slot? with
    | none => exact outside_matches coherent rfl place
    | some slot =>
      simp only [perform, getValue, Uncached.perform, Uncached.within, place]
      exact read_matches coherent slot
  | content address =>
    cases place : address.slot? with
    | none => exact outside_matches coherent rfl place
    | some slot =>
      simp only [perform, content, Contents.get?, Uncached.perform, Uncached.within, place]
      exact unchanged_matches coherent _
  | load entries => exact load_matches coherent entries
  | values => exact values_matches coherent
  | setPolicy policy => exact ⟨rfl, rfl, Grid.coherent_of_unclean rfl⟩
  | select address =>
    cases place : address.slot? with
    | none => exact outside_matches coherent rfl place
    | some slot =>
      simp only [perform, select, Uncached.perform, Uncached.within, place]
      exact ⟨rfl, rfl, coherent⟩
  | selected => exact unchanged_matches coherent (.ok (.selection sheet.selected))
  | setSelectedContent text =>
    cases chosen : sheet.selection with
    | none => exact unselected_matches coherent trivial chosen
    | some slot =>
      have same : sheet.forget.selection = some slot := chosen
      simp only [perform, setSelectedContent, Uncached.perform, Uncached.withSelection, chosen,
        same]
      exact store_matches sheet slot text
  | selectedValue =>
    cases chosen : sheet.selection with
    | none => exact unselected_matches coherent trivial chosen
    | some slot =>
      have same : sheet.forget.selection = some slot := chosen
      simp only [perform, selectedValue, Uncached.perform, Uncached.withSelection, chosen, same]
      exact read_matches coherent slot

theorem performAll_matches {sheet : Sheet} (coherent : sheet.grid.Coherent)
    (requests : List Request) :
    (sheet.performAll requests).1 = (sheet.forget.performAll requests).1 ∧
      (sheet.performAll requests).2.forget = (sheet.forget.performAll requests).2 ∧
      (sheet.performAll requests).2.grid.Coherent := by
  induction requests generalizing sheet with
  | nil => exact ⟨rfl, rfl, coherent⟩
  | cons request rest ih =>
    have first := perform_matches coherent request
    obtain ⟨answers, state, last⟩ := ih first.coherent
    rw [first.state] at answers state
    simp only [performAll, Uncached.performAll]
    exact ⟨congrArg₂ List.cons first.answer answers, state, last⟩

theorem getValue_eq_entry {sheet : Sheet} (coherent : sheet.grid.Coherent) (row : Fin rows)
    (col : Fin cols) : (sheet.perform (.getValue ⟨col, row⟩)).1 =
      (sheet.perform .values).1.map (Answer.entry row col) := by
  rw [(perform_matches coherent _).answer, (perform_matches coherent _).answer]
  exact sheet.forget.getValue_eq_entry row col

/-- Nothing that is asked of a sheet shows whether it remembers values: the answers are those of a
    sheet that works out everything anew, and so are the texts, the policy and the selection. The
    display of the whole sheet has the text in each place that the cell shows by itself. -/
theorem performAll_forget (policy : Policy) (requests : List Request) :
    let (answers, sheet) := (empty policy).performAll requests
    (answers, sheet.forget) = (Uncached.empty policy).performAll requests ∧
      ∀ (row : Fin rows) (col : Fin cols), (sheet.perform (.getValue ⟨col, row⟩)).1 =
        (sheet.perform .values).1.map (Answer.entry row col) := by
  have start : (empty policy).grid.Coherent := Grid.coherent_empty policy
  obtain ⟨answers, state, coherent⟩ := performAll_matches start requests
  exact ⟨Prod.ext answers state, getValue_eq_entry coherent⟩

end Sheet

end Worksheet
