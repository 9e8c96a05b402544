import Worksheet.Proofs.Refinement
import Worksheet.Sheet.Reached

namespace Worksheet

namespace Grid

variable {grid : Grid} {contents : Contents} {policy : Policy}

theorem recalculate_ofContents_of_ok {values : Slots Binary64}
    (evaluated : contents.evaluate policy = .ok values) :
    (ofContents policy contents).recalculate =
      (.ok (), (ofContents policy contents).filled values) :=
  recalculate_of_ok evaluated

theorem recalculate_ofContents_of_error {fault : Fault}
    (evaluated : contents.evaluate policy = .error fault) :
    (ofContents policy contents).recalculate =
      (.error fault, (ofContents policy contents).drained) :=
  recalculate_of_error evaluated

theorem recalculate_ofContents (grid : Grid) :
    (ofContents grid.policy grid.contents).recalculate = grid.recalculate := by
  cases evaluated : grid.contents.evaluate grid.policy with
  | ok values =>
    rw [recalculate_of_ok evaluated, recalculate_ofContents_of_ok evaluated]
    rfl
  | error fault =>
    rw [recalculate_of_error evaluated, recalculate_ofContents_of_error evaluated]
    rfl

theorem contents_recalculate (grid : Grid) : grid.recalculate.2.contents = grid.contents := by
  unfold recalculate
  dsimp only
  split <;> rfl

theorem policy_recalculate (grid : Grid) : grid.recalculate.2.policy = grid.policy := by
  unfold recalculate
  dsimp only
  split <;> rfl

theorem stale?_of_clean (clean : grid.clean = true) : grid.stale? = none := if_pos clean

theorem stale?_of_unclean (unclean : grid.clean = false) : grid.stale? = some grid.contents := by
  rw [stale?, unclean, if_neg Bool.false_ne_true]

end Grid

namespace Sheet

inductive Effect (sheet : Sheet) (request : Request) : Except SheetError Answer × Sheet → Prop where
  | outside (unevaluated : request.evaluated? sheet = none) {address : Address}
      (outside : request.outside? = some address) :
      Effect sheet request (.error (.outOfBounds address), sheet)
  | unselected (unevaluated : request.evaluated? sheet = none) (needs : request.NeedsSelection)
      (unselected : sheet.selection = none) : Effect sheet request (.error .noSelection, sheet)
  | recalculated {contents : Contents} (evaluated : request.evaluated? sheet = some contents)
      (given : Answer) :
      Effect sheet request
        (answer (fun _ => given) (sheet.settle (.ofContents sheet.grid.policy contents)))
  | kept (unevaluated : request.evaluated? sheet = none) (given : Answer) {next : Sheet}
      (grid : next.grid = sheet.grid ∨ ∃ policy, next.grid = sheet.grid.setPolicy policy) :
      Effect sheet request (.ok given, next)

variable {sheet : Sheet} {request : Request} {address : Address} {slot : Slot}

theorem settle_eq (sheet : Sheet) (grid : Grid) : sheet.settle grid =
    (grid.recalculate.1.mapError .fault, { sheet with grid := grid.recalculate.2 }) := by
  unfold settle
  generalize grid.recalculate = outcome
  rfl

theorem settle_ofContents (sheet : Sheet) (grid : Grid) :
    sheet.settle (.ofContents grid.policy grid.contents) = sheet.settle grid := by
  rw [settle_eq, Grid.recalculate_ofContents, settle_eq]

theorem store_eq (sheet : Sheet) (slot : Slot) (text : String) :
    sheet.store slot text =
      sheet.settle (.ofContents sheet.grid.policy (sheet.grid.contents.write slot text)) :=
  (sheet.settle_ofContents (sheet.grid.write slot text)).symm

theorem read_of_clean (coherent : sheet.grid.Coherent) (clean : sheet.grid.clean = true)
    (slot : Slot) : ∃ given, answer .text (sheet.read slot) = (.ok given, sheet) := by
  obtain ⟨value, kept, _⟩ := coherent clean slot
  simp only [read, Grid.ensure_of_clean clean, kept]
  exact ⟨.text value.text, rfl⟩

theorem read_of_unclean (unclean : sheet.grid.clean = false) (slot : Slot) :
    ∃ given, answer .text (sheet.read slot) =
      answer (fun _ => given)
        (sheet.settle (.ofContents sheet.grid.policy sheet.grid.contents)) := by
  rw [settle_ofContents]
  simp only [read, Grid.ensure_of_unclean unclean, settle]
  cases evaluated : sheet.grid.contents.evaluate sheet.grid.policy with
  | ok values =>
    refine ⟨.text (values.read slot).text, ?_⟩
    simp only [Grid.recalculate_of_ok evaluated, Grid.cached_filled]
    rfl
  | error fault =>
    refine ⟨.done, ?_⟩
    simp only [Grid.recalculate_of_error evaluated]
    rfl

theorem values_of_clean (clean : sheet.grid.clean = true) :
    ∃ given, answer .display sheet.values = (.ok given, sheet) := by
  simp only [Sheet.values, Grid.ensure_of_clean clean]
  exact ⟨.display _, rfl⟩

theorem values_of_unclean (unclean : sheet.grid.clean = false) :
    ∃ given, answer .display sheet.values =
      answer (fun _ => given)
        (sheet.settle (.ofContents sheet.grid.policy sheet.grid.contents)) := by
  rw [settle_ofContents]
  simp only [Sheet.values, Grid.ensure_of_unclean unclean, settle]
  cases sheet.grid.recalculate.1 with
  | ok => exact ⟨.display _, rfl⟩
  | error => exact ⟨.done, rfl⟩

theorem outside?_of_address (named : request.address? = some address) :
    request.outside? = if address.InBounds then none else some address := by
  have only : request.addresses = [address] := by
    cases request with
    | load => cases named
    | _ => exact congrArg Option.toList named
  rw [Request.outside?, only]
  by_cases inside : address.InBounds <;> simp [inside]

theorem outside?_load (entries : List (Address × String)) : (Request.load entries).outside? =
    (entries.find? fun entry => decide (¬ entry.1.InBounds)).map Prod.fst :=
  List.find?_map

theorem perform_refused (outside : request.outside? = some address) (sheet : Sheet) :
    sheet.perform request = (.error (.outOfBounds address), sheet) := by
  cases named : request.address? with
  | some only =>
    rw [outside?_of_address named] at outside
    split at outside
    · cases outside
    · rename_i missing
      cases outside
      exact perform_outside named (Address.slot?_eq_none_iff.mpr missing) sheet
  | none =>
    -- Of the requests that are not about one cell only a load names any.
    cases request with
    | load entries =>
      rw [outside?_load, Option.map_eq_some_iff] at outside
      obtain ⟨⟨_, text⟩, found, same⟩ := outside
      cases same
      simp only [perform, load, Contents.ofEntries_of_outside found]
      rfl
    | values | setPolicy | selected | setSelectedContent | selectedValue => cases outside
    | _ => cases named

theorem effect_outside (named : request.address? = some address) (place : address.slot? = none) :
    Effect sheet request (sheet.perform request) := by
  have outside : request.outside? = some address := by
    rw [outside?_of_address named, if_neg (Address.slot?_eq_none_iff.mp place)]
  have unevaluated : request.evaluated? sheet = none := by
    cases request with
    | setContent | clear | getValue =>
      cases named
      simp only [Request.evaluated?, Request.written?, Contents.put?, place, Option.map_none,
        Option.bind_none]
    | content | select => rfl
    | _ => cases named
  rw [perform_refused outside]
  exact .outside unevaluated outside

theorem effect_unselected (needs : request.NeedsSelection) (unselected : sheet.selection = none) :
    Effect sheet request (sheet.perform request) := by
  have unevaluated : request.evaluated? sheet = none := by
    cases request with
    | setSelectedContent | selectedValue =>
      simp only [Request.evaluated?, Request.written?, unselected, Option.map_none,
        Option.bind_none]
    | _ => cases needs
  rw [perform_unselected needs unselected]
  exact .unselected unevaluated needs unselected

theorem effect_store (slot : Slot) (text : String)
    (performed : sheet.perform request = answer (fun _ => .done) (sheet.store slot text))
    (evaluated : request.evaluated? sheet = some (sheet.grid.contents.write slot text)) :
    Effect sheet request (sheet.perform request) := by
  rw [performed, store_eq]
  exact .recalculated evaluated .done

theorem effect_read (evaluated : request.evaluated? sheet = sheet.grid.stale?)
    (clean : sheet.grid.clean = true → ∃ given, sheet.perform request = (.ok given, sheet))
    (unclean : sheet.grid.clean = false → ∃ given, sheet.perform request =
      answer (fun _ => given) (sheet.settle (.ofContents sheet.grid.policy sheet.grid.contents))) :
    Effect sheet request (sheet.perform request) := by
  cases state : sheet.grid.clean with
  | true =>
    obtain ⟨given, result⟩ := clean state
    rw [result]
    exact .kept (evaluated.trans (Grid.stale?_of_clean state)) given (.inl rfl)
  | false =>
    obtain ⟨given, result⟩ := unclean state
    rw [result]
    exact .recalculated (evaluated.trans (Grid.stale?_of_unclean state)) given

theorem effect_read_slot (coherent : sheet.grid.Coherent) (slot : Slot)
    (performed : sheet.perform request = answer .text (sheet.read slot))
    (evaluated : request.evaluated? sheet = sheet.grid.stale?) :
    Effect sheet request (sheet.perform request) := by
  apply effect_read evaluated
  · intro clean
    rw [performed]
    exact read_of_clean coherent clean slot
  · intro unclean
    rw [performed]
    exact read_of_unclean unclean slot

theorem effect_load (sheet : Sheet) (entries : List (Address × String)) :
    Effect sheet (.load entries) (sheet.perform (.load entries)) := by
  cases found : entries.find? fun entry => decide (¬ entry.1.InBounds) with
  | none =>
    have inside : ∀ entry ∈ entries, entry.1.InBounds := by
      simpa using List.find?_eq_none.mp found
    have evaluated : Request.evaluated? sheet (.load entries) = some (.listed entries) :=
      if_pos inside
    simp only [perform, load, Contents.ofEntries_of_inside found]
    exact .recalculated evaluated .done
  | some entry =>
    have missing : ¬ entry.1.InBounds := by simpa using List.find?_some found
    have refused : ¬ ∀ entry ∈ entries, entry.1.InBounds :=
      fun inside => missing (inside entry (List.mem_of_find?_eq_some found))
    have unevaluated : Request.evaluated? sheet (.load entries) = none := if_neg refused
    have outside : (Request.load entries).outside? = some entry.1 := by
      rw [outside?_load, found, Option.map_some]
    rw [perform_refused outside]
    exact .outside unevaluated outside

theorem perform_effect (coherent : sheet.grid.Coherent) (request : Request) :
    Effect sheet request (sheet.perform request) := by
  cases request with
  | setContent address text =>
    cases place : address.slot? with
    | none => exact effect_outside rfl place
    | some slot =>
      apply effect_store slot text
      · simp only [perform, setContent, place]
      · simp only [Request.evaluated?, Request.written?, Contents.put?, place, Option.map_some]
  | clear address =>
    cases place : address.slot? with
    | none => exact effect_outside rfl place
    | some slot =>
      apply effect_store slot ""
      · simp only [perform, clear, setContent, place]
      · simp only [Request.evaluated?, Request.written?, Contents.put?, place, Option.map_some]
  | getValue address =>
    cases place : address.slot? with
    | none => exact effect_outside rfl place
    | some slot =>
      apply effect_read_slot coherent slot
      · simp only [perform, getValue, place]
      · simp only [Request.evaluated?, place, Option.bind_some]
  | content address =>
    cases place : address.slot? with
    | none => exact effect_outside rfl place
    | some slot =>
      simp only [perform, content, Contents.get?, place, Option.map_some]
      exact .kept rfl (.text _) (.inl rfl)
  | load entries => exact effect_load sheet entries
  | values => exact effect_read rfl values_of_clean values_of_unclean
  | setPolicy policy => exact .kept rfl .done (.inr ⟨policy, rfl⟩)
  | select address =>
    cases place : address.slot? with
    | none => exact effect_outside rfl place
    | some slot =>
      simp only [perform, select, place]
      exact .kept rfl (.address address) (.inl rfl)
  | selected => exact .kept rfl (.selection sheet.selected) (.inl rfl)
  | setSelectedContent text =>
    cases chosen : sheet.selection with
    | none => exact effect_unselected trivial chosen
    | some slot =>
      apply effect_store slot text
      · simp only [perform, setSelectedContent, chosen]
      · simp only [Request.evaluated?, Request.written?, chosen, Option.map_some]
  | selectedValue =>
    cases chosen : sheet.selection with
    | none => exact effect_unselected trivial chosen
    | some slot =>
      apply effect_read_slot coherent slot
      · simp only [perform, selectedValue, chosen]
      · simp only [Request.evaluated?, chosen, Option.bind_some]

end Sheet

namespace Table

variable {σ : Type} [MessageSink σ]

theorem sheet_absorb {α : Type} (table : Table σ) (default : α)
    (outcome : Except SheetError α × Sheet) :
    (table.absorb default outcome).2.sheet = outcome.2 := by
  obtain ⟨result, sheet⟩ := outcome
  cases result <;> rfl

theorem sheet_setValueAt (table : Table σ) (address : Address) (text : String) :
    (table.setValueAt address text).sheet =
      (table.sheet.perform (.setContent address text)).2 :=
  table.sheet_absorb () _

theorem sheet_valueAt (table : Table σ) (address : Address) :
    (table.valueAt address).2.sheet = (table.sheet.perform (.getValue address)).2 :=
  table.sheet_absorb "" _

end Table

namespace Sheet

/-- What is true of an empty sheet and stays true whatever is requested is true of every sheet that
    can be reached, for a table asks nothing of its sheet that could not be asked directly. -/
theorem Reached.invariant {P : Sheet → Option Policy → Prop}
    (start : ∀ policy, P (empty policy) none)
    (step : ∀ sheet last, P sheet last → ∀ request : Request,
      P (sheet.perform request).2 (request.passed sheet last))
    {sheet : Sheet} {last : Option Policy} (reached : Reached sheet last) : P sheet last := by
  induction reached with
  | start policy => exact start policy
  | request _ request ih => exact step _ _ ih request
  | write _ sink address text ih =>
    rw [Table.sheet_setValueAt]
    exact step _ _ ih (.setContent address text)
  | read _ sink address ih =>
    rw [Table.sheet_valueAt]
    exact step _ _ ih (.getValue address)

theorem Reached.coherent {sheet : Sheet} {last : Option Policy} (reached : Reached sheet last) :
    sheet.grid.Coherent := by
  apply reached.invariant (P := fun sheet _ => sheet.grid.Coherent)
  · exact Grid.coherent_empty
  · exact fun _ _ coherent request => (perform_matches coherent request).coherent

end Sheet

end Worksheet
